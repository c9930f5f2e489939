import DumpSummary.Yaml.Datum
import DumpSummary.Yaml.ImplicitTag
import DumpSummary.Yaml.Fault
import DumpSummary.Text.Base64
import DumpSummary.Text.Digit
import DumpSummary.Text.Numeral

/-!
# The values of scalars

What the text of a scalar stands for under its tag.  A tag that is written may ask for a value that the text does not
give; then there is none.

## Contents

* `Yaml.wholeNumber`, `Yaml.pointNumber`: numbers;
* `Yaml.truthValue`: truth values;
* `Timestamp.fault?`: which dates there are;
* `Yaml.scalarReader?`: how the text of a scalar is read under a tag.
-/

namespace DumpSummary.Yaml

/-- Fails because a scalar is not what its tag says. -/
def valueFault {α : Type} (headline : String) : Except Fault α :=
  .error ⟨.value, headline⟩

/-- Fails because a number has no digits at all. -/
def emptyFault {α : Type} : Except Fault α :=
  .error ⟨.empty, "string index out of range"⟩

/-! ## Numbers -/

/-- The value of a digit in a base of at most sixteen. -/
def digitIn? (base : Nat) (c : Char) : Option Nat :=
  let value :=
    if 'a' ≤ c && c ≤ 'f' then some (c.toNat - 87)
    else if 'A' ≤ c && c ≤ 'F' then some (c.toNat - 55)
    else Text.digitValue? c
  value.filter (· < base)

/-- The digits without the mark of their base, which may stand before them. -/
def withoutMark (base : Nat) : List Char → List Char
  | '0' :: m :: ds =>
    if base == 2 && m.toLower == 'b' || base == 8 && m.toLower == 'o' || base == 16 && m.toLower == 'x' then ds
    else '0' :: m :: ds
  | ds => ds

/-- The number of digits in a base.  Spaces may surround it, and a sign and the mark of the base may stand before its
digits. -/
def integerIn (base : Nat) (cs : List Char) : Except Fault Int :=
  let (negative, body) := Text.splitSign (Text.trimSpaces cs)
  let digits := withoutMark base body
  let leading := (digits.takeWhile fun c => (digitIn? base c).isSome).length
  if base == 10 && leading > Text.maxDigits then valueFault (Text.tooManyDigits leading)
  else
    match digits.mapM (digitIn? base) with
    | some (d :: ds) =>
      let n : Int := ((d :: ds).foldl (fun n d => base * n + d) 0 : Nat)
      .ok (if negative then -n else n)
    | _ => valueFault (Text.invalidLiteral base (String.ofList cs))

/-- The number of parts to the base sixty. -/
def sexagesimal (parts : List (List Char)) : Except Fault Int :=
  parts.foldlM (fun n part => (integerIn 10 part).map fun d => 60 * n + d) 0

/-- The whole number of a text: binary, octal, decimal, hexadecimal or to the base sixty, with low lines anywhere. -/
def wholeNumber (text : String) : Except Fault Int :=
  let cs := text.toList.filter (· != '_')
  let body := unsigned cs
  let magnitude : Except Fault Int :=
    match body with
    | [] => emptyFault
    | ['0'] => .ok 0
    | '0' :: 'b' :: ds => integerIn 2 ds
    | '0' :: 'x' :: ds => integerIn 16 ds
    | '0' :: ds => integerIn 8 ('0' :: ds)
    | ds => if ds.contains ':' then sexagesimal (splitAt ':' ds) else integerIn 10 ds
  magnitude.map fun n => if cs.head? == some '-' then -n else n

/-- The decimal of a text: digits with at most one point, and an exponent. -/
def decimal? (cs : List Char) : Option (Nat × Int) :=
  let mantissa := cs.takeWhile fun c => c.isDigit || c == '.'
  let whole := mantissa.takeWhile (· != '.')
  let fraction := (mantissa.dropWhile (· != '.')).drop 1
  let digits := whole ++ fraction
  if digits.isEmpty || fraction.contains '.' then none
  else
    let m := digits.foldl (fun n d => 10 * n + (d.toNat - 48)) 0
    match cs.drop mantissa.length with
    | [] => some (m, -(fraction.length : Int))
    | 'e' :: rest =>
      let ds := unsigned rest
      if isRun Char.isDigit ds then
        let n : Int := ds.foldl (fun n d => 10 * n + (d.toNat - 48)) 0
        some (m, (if rest.head? == some '-' then -n else n) - fraction.length)
      else none
    | _ => none

/-- A decimal digit of any script as that of ASCII. -/
def plainDigit (c : Char) : Char :=
  match Text.digitValue? c with
  | some d => Char.ofNat (48 + d)
  | none => c

/-- The number of a text in small letters: a decimal, or a word for an infinity or for no number.  Spaces may surround
it, and a sign may stand before it. -/
def floatOf (cs : List Char) : Except Fault Binary64 :=
  let (negative, body) := Text.splitSign (Text.trimSpaces cs)
  let body := body.map plainDigit
  let word := String.ofList body
  if word == "inf" || word == "infinity" then .ok (.infinite negative)
  else if word == "nan" then .ok .nan
  else match decimal? body with
    | some (m, e) => .ok (.ofDecimal negative m e)
    | none => valueFault ("could not convert string to float: " ++ Text.quoted (String.ofList cs))

/-- The weight of a part to the base sixty, which has to be a number of the machine. -/
def partWeight (weight : Nat) : Except Fault Binary64 :=
  match Binary64.ofNat false weight with
  | .infinite _ => .error ⟨.overflow, "int too large to convert to float"⟩
  | w => .ok w

/-- A number and parts to the base sixty, the last part first, added up; `weight` is that of the next part. -/
def addParts (weight : Nat) (sum : Binary64) : List Binary64 → Except Fault Binary64
  | [] => .ok sum
  | x :: xs => do
    let w ← partWeight weight
    addParts (60 * weight) (sum.add (x.mul w)) xs

/-- The number with a point of a text: a decimal, an infinity, no number, or to the base sixty. -/
def pointNumber (text : String) : Except Fault Binary64 :=
  let cs := (text.toList.filter (· != '_')).map Char.toLower
  let body := unsigned cs
  let magnitude : Except Fault Binary64 :=
    if cs.isEmpty then emptyFault
    else if String.ofList body == ".inf" then .ok (.infinite false)
    else if String.ofList body == ".nan" then .ok .nan
    else if body.contains ':' then do
      let parts ← (splitAt ':' body).mapM floatOf
      addParts 1 .zero parts.reverse
    else floatOf body
  magnitude.map fun x => if cs.head? == some '-' then x.negate else x

/-! ## Truth values -/

/-- The truth value of a word, in any letter case. -/
def truthValue (text : String) : Except Fault Bool :=
  let word := String.ofList (text.toList.map Char.toLower)
  if ["yes", "true", "on"].contains word then .ok true
  else if ["no", "false", "off"].contains word then .ok false
  else .error ⟨.word, Text.quoted word⟩

/-! ## Dates -/

/-- Whether a year has a leap day. -/
def isLeapYear (y : Nat) : Bool := y % 4 == 0 && (y % 100 != 0 || y % 400 == 0)

/-- The number of days of a month. -/
def daysIn (year month : Nat) : Nat :=
  if month == 2 then (if isLeapYear year then 29 else 28)
  else if [4, 6, 9, 11].contains month then 30 else 31

/-- The text of an offset of minutes, as days and seconds. -/
def offsetText (minutes : Int) : String :=
  let days := minutes / 1440
  let seconds := minutes % 1440 * 60
  let parts := (if days == 0 then [] else ["days=" ++ Int.repr days])
    ++ (if seconds == 0 then [] else ["seconds=" ++ Int.repr seconds])
  "datetime.timedelta(" ++ (if parts.isEmpty then "0" else String.intercalate ", " parts) ++ ")"

/-- What is wrong with a date: an offset of a day or more, a month, day or time that does not exist. -/
def Timestamp.fault? (t : Timestamp) : Option String :=
  let badOffset := match t.offset with
    | some m =>
      if m.natAbs ≥ 1440 then
        some ("offset must be a timedelta strictly between -timedelta(hours=24) and timedelta(hours=24), not "
          ++ offsetText m ++ ".")
      else none
    | none => none
  let badDate :=
    if t.year == 0 then some "year 0 is out of range"
    else if t.month == 0 || t.month > 12 then some "month must be in 1..12"
    else if t.day == 0 || t.day > daysIn t.year t.month then some "day is out of range for month"
    else none
  let badTime := match t.time with
    | some (h, m, s) =>
      if h > 23 then some "hour must be in 0..23"
      else if m > 59 then some "minute must be in 0..59"
      else if s > 59 then some "second must be in 0..59"
      else none
    | none => none
  badOffset <|> badDate <|> badTime

/-- The date of a text. -/
def dateValue (text : String) : Except Fault Datum :=
  match timestamp? text.toList with
  | none => .error ⟨.form, "'NoneType' object has no attribute 'groupdict'"⟩
  | some t =>
    match t.fault? with
    | some headline => valueFault headline
    | none => .ok .timestamp

/-! ## Bytes -/

/-- The bytes of a text in base 64. -/
def bytesValue (text : String) : Except Fault Datum :=
  if text.toList.any (128 ≤ ·.toNat) then .error ⟨.construction, "failed to convert base64 data into ascii"⟩
  else
    match Text.Base64.decode text.toList with
    | .ok bs => .ok (.bytes bs)
    | .error f => .error ⟨.construction, "failed to decode base64 data: " ++ f.message⟩

/-- How the text of a scalar is read under a tag; `none` for a tag that is not about scalars. -/
def scalarReader? (tag : String) : Option (String → Except Fault Datum) :=
  if tag == standardTag "null" then some fun _ => .ok .null
  else if tag == standardTag "bool" then some fun s => (truthValue s).map .bool
  else if tag == standardTag "int" then some fun s => (wholeNumber s).map .int
  else if tag == standardTag "float" then some fun s => (pointNumber s).map .float
  else if tag == standardTag "binary" then some bytesValue
  else if tag == standardTag "timestamp" then some dateValue
  else if tag == standardTag "str" then some fun s => .ok (.text s)
  else none

end DumpSummary.Yaml
