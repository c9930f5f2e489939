import DumpSummary.Text.Utf16
import DumpSummary.Text.Quoted

/-!
# Character encodings

The encodings that a dump can be stored in, the names by which a user asks for them, and the text that bytes stand
for.  The name of an encoding is read without regard to letter case, and every run of other signs between its
letters and digits counts as one.

## Contents

* `Encoding`, `Encoding.ofName?`: the encodings and their names;
* `DecodeFault`, `DecodeFault.message`: why bytes stand for no text;
* `Encoding.decode`: the text of bytes;
* `decodePieces`: the text of bytes that are read piece by piece.
-/

namespace DumpSummary.Text

/-- An encoding. -/
inductive Encoding
  /-- UTF-8; a mark at the beginning is part of the text. -/
  | utf8
  /-- UTF-8; a mark at the beginning is dropped. -/
  | utf8Marked
  /-- One byte for each of the first 256 code points. -/
  | latin1
  /-- UTF-16 with a byte order mark. -/
  | utf16
  /-- ASCII. -/
  | ascii
  deriving DecidableEq, Repr

namespace Encoding

/-- Whether a character is part of a word of an encoding name. -/
def isNameChar (c : Char) : Bool :=
  c.isAlphanum || c == '.'

/-- The words of a name in lower case, joined by low lines; `gap` tells that other signs stand before the head, and
`begun` that a word stands before them. -/
def spelling.loop : Bool → Bool → List Char → List Char
  | _, _, [] => []
  | gap, begun, c :: cs =>
    if isNameChar c then (if gap && begun then ['_', c.toLower] else [c.toLower]) ++ loop false true cs
    else loop true begun cs

/-- An encoding name in its common spelling: lower case, and a low line for each inner run of other signs. -/
def spelling (name : String) : String :=
  String.ofList (spelling.loop false false name.toList)

/-- The spellings of each encoding. -/
def spellings : List (Encoding × List String) :=
  [(.utf8, ["utf_8", "u8", "utf", "utf8", "utf8_ucs2", "utf8_ucs4", "cp65001"]),
   (.utf8Marked, ["utf_8_sig"]),
   (.latin1, ["latin_1", "8859", "cp819", "csisolatin1", "ibm819", "iso8859", "iso8859_1", "iso_8859_1",
      "iso_8859_1_1987", "iso_ir_100", "l1", "latin", "latin1"]),
   (.utf16, ["utf_16", "u16", "utf16"]),
   (.ascii, ["ascii", "646", "ansi_x3.4_1968", "ansi_x3_4_1968", "ansi_x3.4_1986", "cp367", "csascii", "ibm367",
      "iso646_us", "iso_646.irv_1991", "iso_ir_6", "us", "us_ascii"])]

/-- The encoding of a name. -/
def ofName? (name : String) : Option Encoding :=
  let s := spelling name
  (spellings.find? fun e => e.2.contains s).map (·.1)

end Encoding

/-- Why bytes stand for no text. -/
inductive DecodeFault
  /-- The bytes are not well-formed UTF-8. -/
  | utf8 (f : Utf8.Fault)
  /-- The bytes are not well-formed UTF-16 in that byte order. -/
  | utf16 (o : Utf16.Order) (f : Utf16.Fault)
  /-- A byte is not ASCII. -/
  | notAscii (byte : UInt8) (position : Nat)
  /-- UTF-16 data have no byte order mark. -/
  | noByteOrderMark
  deriving DecidableEq, Repr

namespace DecodeFault

/-- The text of a reason. -/
def utf8Reason : Utf8.Reason → String
  | .start => "invalid start byte"
  | .continuation => "invalid continuation byte"
  | .cutOff => "unexpected end of data"

/-- The text of a reason. -/
def utf16Reason : Utf16.Reason → String
  | .truncated => "truncated data"
  | .cutOff => "unexpected end of data"
  | .lone => "illegal encoding"
  | .unpaired => "illegal UTF-16 surrogate"

/-- The message about bytes from one position to another. -/
def located (codec : String) (byte : UInt8) (first last : Nat) (reason : String) : String :=
  let place :=
    if first == last then
      "byte 0x" ++ String.ofList (hexDigits 2 byte.toNat) ++ " in position " ++ Nat.repr first
    else "bytes in position " ++ Nat.repr first ++ "-" ++ Nat.repr last
  "'" ++ codec ++ "' codec can't decode " ++ place ++ ": " ++ reason

/-- The message. -/
def message : DecodeFault → String
  | .utf8 f => located "utf-8" f.byte f.first f.last (utf8Reason f.reason)
  | .utf16 .little f => located "utf-16-le" f.byte f.first f.last (utf16Reason f.reason)
  | .utf16 .big f => located "utf-16-be" f.byte f.first f.last (utf16Reason f.reason)
  | .notAscii byte position => located "ascii" byte position position "ordinal not in range(128)"
  | .noByteOrderMark => "UTF-16 stream does not start with BOM"

end DecodeFault

/-- The mark that may stand at the beginning of UTF-8 data. -/
def utf8Mark : Bytes := [0xef, 0xbb, 0xbf]

/-- Bytes as ASCII, from a position on. -/
def decodeAscii : Nat → Bytes → Except DecodeFault (List Char)
  | _, [] => .ok []
  | position, b :: bs =>
    if b < 0x80 then (decodeAscii (position + 1) bs).map (Char.ofNat b.toNat :: ·)
    else .error (.notAscii b position)

/-- Bytes as UTF-16.  Data without a byte order mark are refused after all else, unless they hold less than a unit. -/
def decodeUtf16 (bs : Bytes) : Except DecodeFault (List Char) :=
  match Utf16.order? bs with
  | some o => (Utf16.decode o 2 (bs.drop 2)).mapError (.utf16 o)
  | none =>
    match Utf16.decode .little 0 bs with
    | .error f => .error (.utf16 .little f)
    | .ok cs => if bs.length < 2 then .ok cs else .error .noByteOrderMark

/-- Bytes as UTF-8 without the mark at the beginning; positions count from behind it. -/
def decodeUtf8Marked (bs : Bytes) : Except DecodeFault (List Char) :=
  if bs.length < 3 && bs.isPrefixOf utf8Mark then .ok []
  else
    let body := if utf8Mark.isPrefixOf bs then bs.drop 3 else bs
    (Utf8.decode 0 body).mapError .utf8

/-- The text of bytes. -/
def Encoding.decode : Encoding → Bytes → Except DecodeFault (List Char)
  | .utf8, bs => (Utf8.decode 0 bs).mapError .utf8
  | .utf8Marked, bs => decodeUtf8Marked bs
  | .latin1, bs => .ok (bs.map fun b => Char.ofNat b.toNat)
  | .utf16, bs => decodeUtf16 bs
  | .ascii, bs => decodeAscii 0 bs

/-- A fault of data that are read in pieces of a size: positions count from the beginning of the piece in which the
fault shows.  A sequence that the end of a piece cuts belongs to the next piece, and the end of the data is a piece
of its own. -/
def Utf8.Fault.inPiece (size : Nat) (f : Utf8.Fault) : Utf8.Fault :=
  let shown := match f.reason with
    | .start => f.first
    | _ => f.last + 1
  let base := if f.reason = .cutOff then f.first else min f.first (size * (shown / size))
  { f with first := f.first - base, last := f.last - base }

/-- The text of UTF-8 bytes that are read in pieces of 8192. -/
def decodePieces (bs : Bytes) : Except DecodeFault (List Char) :=
  (Utf8.decode 0 bs).mapError fun f => .utf8 (f.inPiece 8192)

end DumpSummary.Text
