import DumpSummary.Number.Binary64

/-!
# The shortest decimal of a binary number

The text of a finite number shows the fewest digits that read back as the same number; of several such digit
strings, the nearest to the value.

## Contents

* `Decimal`: digits and the place of the decimal point;
* `shortest`: the shortest decimal of a positive finite number;
* `NumberFormat`, `NumberFormat.text`: how digits become text.
-/

namespace DumpSummary

/-- The positive decimal `0.d₁d₂… · 10 ^ point`; `digits` is the number that the digits write. -/
structure Decimal where
  /-- The digits as one number, without trailing zeros. -/
  digits : Nat
  /-- The power of ten that the fraction `0.d₁d₂…` is scaled by. -/
  point : Int

namespace Binary64

/-- The place of the decimal point of `num / den`: the `k` with `10 ^ (k - 1) ≤ num / den < 10 ^ k`. -/
def decimalPoint (num den : Nat) : Int :=
  if den ≤ num then decimalLength (num / den)
  else 1 - (decimalLength ((den + num - 1) / num - 1) : Int)

/-- On the grid of `n`-digit decimals, the grid point nearest to the value among its two neighbours that lie
in the interval from `low` to `high` (numerators over `den`; the ends belong to it when `closed`). -/
def onGrid (low value high den : Nat) (closed : Bool) (point : Int) (n : Nat) : Option Nat :=
  let shift : Int := point - n
  let up := if shift ≥ 0 then 1 else Nat.pow 10 (-shift).toNat
  let step := if shift ≥ 0 then den * Nat.pow 10 shift.toNat else den
  let inside (d : Nat) : Bool :=
    if closed then low * up ≤ d * step && d * step ≤ high * up
    else low * up < d * step && d * step < high * up
  let below := value * up / step
  let above := below + 1
  let gapBelow := value * up - below * step
  let gapAbove := above * step - value * up
  match inside below, inside above with
  | true, true => some (if gapAbove < gapBelow || (gapAbove == gapBelow && below % 2 == 1) then above else below)
  | true, false => some below
  | false, true => some above
  | false, false => none

/-- Drops trailing zeros from a number of at most `fuel` digits. -/
def dropZeros : Nat → Nat → Nat
  | 0, n => n
  | fuel + 1, n => if n ≠ 0 && n % 10 == 0 then dropZeros fuel (n / 10) else n

/-- The shortest decimal that rounds to `m · 2 ^ e / 2 ^ 1074`.  The numbers that round to it reach half way to
its two neighbours; the lower neighbour of a power of two is nearer. -/
def shortest (m e : Nat) : Decimal :=
  let den := 4 <<< 1074
  let value := (4 * m) <<< e
  let high := (4 * m + 2) <<< e
  let low := (if m == 1 <<< 52 && e > 0 then 4 * m - 1 else 4 * m - 2) <<< e
  let point := decimalPoint value den
  let found := (List.range 18).findSome? fun n =>
    if n == 0 then none else (onGrid low value high den (m % 2 == 0) point n).map fun d => (n, d)
  match found with
  | some (n, d) =>
    if d == Nat.pow 10 n then ⟨1, point + 1⟩ else ⟨dropZeros n d, point⟩
  | none => ⟨value / den, point⟩

end Binary64

/-- How a finite number is written. -/
structure NumberFormat where
  /-- The least decimal exponent that is written without an exponent. -/
  leastPlain : Int
  /-- The least decimal exponent above the plain ones. -/
  leastScientific : Int
  /-- The least number of digits of an exponent. -/
  exponentDigits : Nat
  /-- What follows a whole number in plain form. -/
  wholeSuffix : String

namespace NumberFormat

/-- Numbers from 0.0001 to below 10^16 are written plainly, a whole one with `.0`; the others have an exponent
of at least two digits. -/
def standard : NumberFormat := ⟨-4, 16, 2, ".0"⟩

/-- A number padded with zeros on the left. -/
def padded (width n : Nat) : String :=
  let ds := Nat.repr n
  String.ofList (List.replicate (width - ds.length) '0') ++ ds

/-- The text of a positive decimal. -/
def decimalText (f : NumberFormat) (d : Decimal) : String :=
  let ds := Nat.repr d.digits
  let exponent := d.point - 1
  if f.leastPlain ≤ exponent && exponent < f.leastScientific then
    if d.point ≤ 0 then "0." ++ String.ofList (List.replicate (-d.point).toNat '0') ++ ds
    else
      let places := d.point.toNat
      if ds.length ≤ places then
        ds ++ String.ofList (List.replicate (places - ds.length) '0') ++ f.wholeSuffix
      else String.ofList (ds.toList.take places) ++ "." ++ String.ofList (ds.toList.drop places)
  else
    let mantissa :=
      if ds.length ≤ 1 then ds else String.ofList (ds.toList.take 1) ++ "." ++ String.ofList (ds.toList.drop 1)
    let sign := if exponent < 0 then "-" else "+"
    mantissa ++ "e" ++ sign ++ padded f.exponentDigits exponent.natAbs

/-- The text of a number. -/
def text (f : NumberFormat) : Binary64 → String
  | .finite s m e =>
    let sign := if s then "-" else ""
    if m == 0 then sign ++ "0" ++ f.wholeSuffix else sign ++ f.decimalText (Binary64.shortest m e)
  | .infinite s => if s then "-inf" else "inf"
  | .nan => "nan"

end NumberFormat
end DumpSummary
