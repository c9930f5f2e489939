/-!
# UTF-8

Reads bytes as UTF-8 and says where and why bytes are not well formed.  The reader looks at one byte at a time: it
is either between characters or inside a sequence whose next byte must lie in a known range.

## Contents

* `Bytes`: what a file holds;
* `Utf8.Fault`: why bytes are not well formed, with the positions of the first and the last byte concerned;
* `Utf8.Sequence`: a sequence that has begun;
* `Utf8.decode`: the characters of bytes.
-/

namespace DumpSummary

/-- What a file holds. -/
abbrev Bytes := List UInt8

namespace Text.Utf8

/-- What is wrong with a sequence. -/
inductive Reason
  /-- The byte cannot begin a sequence. -/
  | start
  /-- The byte that follows cannot continue the sequence. -/
  | continuation
  /-- The sequence is cut off by the end of the data. -/
  | cutOff
  deriving DecidableEq, Repr

/-- A sequence that is not well formed: its first byte, the positions of its first and last byte, and the reason. -/
structure Fault where
  /-- The first byte. -/
  byte : UInt8
  /-- The position of the first byte. -/
  first : Nat
  /-- The position of the last byte concerned. -/
  last : Nat
  /-- What is wrong. -/
  reason : Reason
  deriving DecidableEq, Repr

/-- A sequence that has begun. -/
structure Sequence where
  /-- The first byte. -/
  lead : UInt8
  /-- The position of the first byte. -/
  start : Nat
  /-- The bits read so far. -/
  code : Nat
  /-- How many bytes are missing. -/
  missing : Nat
  /-- The least value of the next byte. -/
  low : Nat
  /-- The greatest value of the next byte. -/
  high : Nat

/-- What a first byte begins. -/
inductive Beginning
  /-- A character of its own. -/
  | whole (c : Char)
  /-- A longer sequence. -/
  | sequence (s : Sequence)
  /-- Nothing. -/
  | nothing

/-- What the byte begins.  The ranges leave out overlong forms, surrogates and what lies above U+10FFFF. -/
def beginning (position : Nat) (b : UInt8) : Beginning :=
  let n := b.toNat
  let sequence (code missing low high : Nat) : Beginning := .sequence ⟨b, position, code, missing, low, high⟩
  if n < 0x80 then .whole (Char.ofNat n)
  else if n < 0xc2 then .nothing
  else if n < 0xe0 then sequence (n - 0xc0) 1 0x80 0xbf
  else if n == 0xe0 then sequence 0 2 0xa0 0xbf
  else if n == 0xed then sequence 0xd 2 0x80 0x9f
  else if n < 0xf0 then sequence (n - 0xe0) 2 0x80 0xbf
  else if n == 0xf0 then sequence 0 3 0x90 0xbf
  else if n < 0xf4 then sequence (n - 0xf0) 3 0x80 0xbf
  else if n == 0xf4 then sequence 4 3 0x80 0x8f
  else .nothing

/-- Reads bytes from a position on; `pending` is the sequence that has begun. -/
def decodeFrom : Nat → Option Sequence → Bytes → Except Fault (List Char)
  | position, some s, [] => .error ⟨s.lead, s.start, position - 1, .cutOff⟩
  | _, none, [] => .ok []
  | position, none, b :: bs =>
    match beginning position b with
    | .whole c => (decodeFrom (position + 1) none bs).map (c :: ·)
    | .sequence s => decodeFrom (position + 1) (some s) bs
    | .nothing => .error ⟨b, position, position, .start⟩
  | position, some s, b :: bs =>
    if s.low ≤ b.toNat && b.toNat ≤ s.high then
      let code := 64 * s.code + b.toNat % 64
      if s.missing ≤ 1 then (decodeFrom (position + 1) none bs).map (Char.ofNat code :: ·)
      else decodeFrom (position + 1) (some { s with code := code, missing := s.missing - 1, low := 0x80, high := 0xbf }) bs
    else .error ⟨s.lead, s.start, position - 1, .continuation⟩

/-- The characters of bytes; positions count from `position`. -/
def decode (position : Nat) (bs : Bytes) : Except Fault (List Char) :=
  decodeFrom position none bs

end Text.Utf8
end DumpSummary
