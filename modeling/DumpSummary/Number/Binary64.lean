/-!
# Binary floating-point numbers of 64 bits

The numbers of the IEEE 754 format `binary64`, each in its one normal form, so that equality of terms is
equality of values (the two zeros apart).  All arithmetic is exact, on natural numbers.

## Contents

* `Binary64`: the type;
* `Binary64.ofRatio`, `Binary64.ofDecimal`: the nearest number to a fraction, to a decimal;
* `Binary64.ofNat`: the nearest number to a natural number;
* `Binary64.negate`, `Binary64.add`, `Binary64.mul`: arithmetic;
* `Binary64.integer?`: the value, where it is a whole number.
-/

namespace DumpSummary

/-- A number of the format.  The value of `finite s m e` is `± m · 2 ^ e / 2 ^ 1074`; in normal form `m` is
below `2 ^ 53`, and at least `2 ^ 52` unless `e` is zero. -/
inductive Binary64
  /-- A finite number: its sign (true for minus), its significand and its scale. -/
  | finite (negative : Bool) (significand scale : Nat)
  /-- An infinity and its sign. -/
  | infinite (negative : Bool)
  /-- No number. -/
  | nan
  deriving DecidableEq, Repr, Inhabited

namespace Binary64

/-- The number zero. -/
def zero : Binary64 := .finite false 0 0

/-- Division to the nearest whole number; a half goes to the even neighbour. -/
def roundDiv (num den : Nat) : Nat :=
  let q := num / den
  let r := num % den
  if 2 * r < den then q
  else if den < 2 * r then q + 1
  else if q % 2 == 0 then q else q + 1

/-- The number nearest to `± num / den`, for a positive `den`; of two, the one with the even significand. -/
def ofRatio (negative : Bool) (num den : Nat) : Binary64 :=
  let scaled := num <<< 1074
  let bits := Nat.log2 (scaled / den) + 1
  let e := bits - 53
  let m := roundDiv scaled (den <<< e)
  let (m, e) := if m == 1 <<< 53 then (1 <<< 52, e + 1) else (m, e)
  if e > 2045 then .infinite negative else .finite negative m e

/-- The number of decimal digits of a natural number; zero has one. -/
def decimalLength (n : Nat) : Nat := (Nat.toDigits 10 n).length

/-- The number nearest to `± m · 10 ^ e`. -/
def ofDecimal (negative : Bool) (m : Nat) (e : Int) : Binary64 :=
  if m == 0 then .finite negative 0 0
  else
    let magnitude := e + decimalLength m
    if magnitude > 400 then .infinite negative
    else if magnitude < -400 then .finite negative 0 0
    else if e ≥ 0 then ofRatio negative (m * Nat.pow 10 e.toNat) 1
    else ofRatio negative m (Nat.pow 10 (-e).toNat)

/-- The number nearest to a natural number with a sign. -/
def ofNat (negative : Bool) (n : Nat) : Binary64 := ofRatio negative n 1

/-! ## Arithmetic -/

/-- The number with the other sign. -/
def negate : Binary64 → Binary64
  | .finite s m e => .finite (!s) m e
  | .infinite s => .infinite (!s)
  | .nan => .nan

/-- The number nearest to the sum.  A sum of zero is negative only if both summands are. -/
def add : Binary64 → Binary64 → Binary64
  | .nan, _ => .nan
  | _, .nan => .nan
  | .infinite s, .infinite t => if s == t then .infinite s else .nan
  | .infinite s, _ => .infinite s
  | _, .infinite t => .infinite t
  | .finite s m e, .finite t n f =>
    let signed (negative : Bool) (units : Nat) : Int := if negative then -units else units
    let sum := signed s (m <<< e) + signed t (n <<< f)
    ofRatio (sum < 0 || sum == 0 && s && t) sum.natAbs (1 <<< 1074)

/-- The number nearest to the product. -/
def mul : Binary64 → Binary64 → Binary64
  | .nan, _ => .nan
  | _, .nan => .nan
  | .infinite s, .infinite t => .infinite (s != t)
  | .infinite s, .finite t n _ => if n == 0 then .nan else .infinite (s != t)
  | .finite s m _, .infinite t => if m == 0 then .nan else .infinite (s != t)
  | .finite s m e, .finite t n f => ofRatio (s != t) ((m <<< e) * (n <<< f)) (1 <<< 2148)

/-! ## Whole numbers -/

/-- The value as a whole number; `none` for a fraction, an infinity and no number. -/
def integer? : Binary64 → Option Int
  | .finite s m e =>
    let scaled := m <<< e
    if scaled % (1 <<< 1074) == 0 then
      let n : Int := Int.ofNat (scaled >>> 1074)
      some (if s then -n else n)
    else none
  | _ => none

/-- Whether the number is one of the two zeros. -/
def isZero : Binary64 → Bool
  | .finite _ 0 _ => true
  | _ => false

end Binary64
end DumpSummary
