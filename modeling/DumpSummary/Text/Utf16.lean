import DumpSummary.Text.Utf8

/-!
# UTF-16

Reads bytes as 16-bit units and units as characters.  A byte order mark decides which byte of a unit comes first;
without one, the low byte does.

## Contents

* `Utf16.Fault`: why bytes are not well formed;
* `Utf16.Order`, `Utf16.order?`: the byte order that a mark asks for;
* `Utf16.decode`: the characters of bytes.
-/

namespace DumpSummary.Text.Utf16

/-- What is wrong with bytes. -/
inductive Reason
  /-- Half a unit is left over. -/
  | truncated
  /-- The data end after the first half of a pair. -/
  | cutOff
  /-- The second half of a pair stands alone. -/
  | lone
  /-- The first half of a pair has no second half. -/
  | unpaired
  deriving DecidableEq, Repr

/-- The order of the two bytes of a unit. -/
inductive Order
  /-- The low byte comes first. -/
  | little
  /-- The high byte comes first. -/
  | big
  deriving DecidableEq, Repr

/-- Bytes that are not well formed: the first byte, the positions of the first and the last one, and the reason. -/
structure Fault where
  /-- The first byte. -/
  byte : UInt8
  /-- The position of the first byte. -/
  first : Nat
  /-- The position of the last byte concerned. -/
  last : Nat
  /-- What is wrong. -/
  reason : Reason
  deriving DecidableEq, Repr

/-- The byte order of a byte order mark at the head of the data. -/
def order? : Bytes → Option Order
  | 0xff :: 0xfe :: _ => some .little
  | 0xfe :: 0xff :: _ => some .big
  | _ => none

/-- The unit of two bytes. -/
def unit (o : Order) (a b : UInt8) : Nat :=
  match o with
  | .little => 256 * b.toNat + a.toNat
  | .big => 256 * a.toNat + b.toNat

/-- Whether a unit is the first half of a pair. -/
def isHigh (n : Nat) : Bool := 0xd800 ≤ n && n < 0xdc00

/-- Whether a unit is the second half of a pair. -/
def isLow (n : Nat) : Bool := 0xdc00 ≤ n && n < 0xe000

/-- The characters of bytes from a position on. -/
def decode (o : Order) : Nat → Bytes → Except Fault (List Char)
  | _, [] => .ok []
  | position, [a] => .error ⟨a, position, position, .truncated⟩
  | position, a :: b :: rest =>
    let high := unit o a b
    if isLow high then .error ⟨a, position, position + 1, .lone⟩
    else if isHigh high then
      match rest with
      | c :: d :: rest =>
        let low := unit o c d
        if isLow low then
          (decode o (position + 4) rest).map (Char.ofNat (0x10000 + (high - 0xd800) * 0x400 + (low - 0xdc00)) :: ·)
        else .error ⟨a, position, position + 1, .unpaired⟩
      | rest => .error ⟨a, position, position + 1 + rest.length, .cutOff⟩
    else (decode o (position + 2) rest).map (Char.ofNat high :: ·)

end DumpSummary.Text.Utf16
