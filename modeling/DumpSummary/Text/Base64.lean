import DumpSummary.Text.Utf8

/-!
# Base 64

Bytes written as text, six bits a character.  Characters outside the alphabet are skipped, and a pad that completes a
group of four ends the text.

## Contents

* `Base64.Fault`: why a text stands for no bytes;
* `Base64.decode`: the bytes of a text.
-/

namespace DumpSummary.Text.Base64

/-- Why a text stands for no bytes. -/
inductive Fault
  /-- A group of one character is left over; with the number of characters. -/
  | lone (characters : Nat)
  /-- A group is not padded to four. -/
  | padding
  deriving DecidableEq, Repr

/-- The message. -/
def Fault.message : Fault → String
  | .lone n =>
    "Invalid base64-encoded string: number of data characters (" ++ Nat.repr n
      ++ ") cannot be 1 more than a multiple of 4"
  | .padding => "Incorrect padding"

/-- The six bits of a character. -/
def bits? (c : Char) : Option Nat :=
  if c.isUpper then some (c.toNat - 65)
  else if c.isLower then some (c.toNat - 71)
  else if c.isDigit then some (c.toNat + 4)
  else if c == '+' then some 62
  else if c == '/' then some 63
  else none

/-- The bytes of a text: `done` holds the earlier ones, last first, `group` how many characters of the group are read,
`held` their bits that are not in a byte yet, and `pads` the pads in a row. -/
def decodeFrom : Bytes → Nat → Nat → Nat → List Char → Except Fault Bytes
  | done, group, _, _, [] =>
    if group == 0 then .ok done.reverse
    else if group == 1 then .error (.lone (done.length / 3 * 4 + 1))
    else .error .padding
  | done, group, held, pads, c :: cs =>
    if c == '=' then
      if group ≥ 2 && group + pads + 1 ≥ 4 then .ok done.reverse
      else decodeFrom done group held (if group ≥ 2 then pads + 1 else pads) cs
    else match bits? c with
      | none => decodeFrom done group held pads cs
      | some b =>
        if group == 0 then decodeFrom done 1 b 0 cs
        else if group == 1 then decodeFrom (UInt8.ofNat (held * 4 + b / 16) :: done) 2 (b % 16) 0 cs
        else if group == 2 then decodeFrom (UInt8.ofNat (held * 16 + b / 4) :: done) 3 (b % 4) 0 cs
        else decodeFrom (UInt8.ofNat (held * 64 + b) :: done) 0 0 0 cs

/-- The bytes of a text. -/
def decode (cs : List Char) : Except Fault Bytes :=
  decodeFrom [] 0 0 0 cs

end DumpSummary.Text.Base64
