import DumpSummary.Settings.Basic
import DumpSummary.Yaml.Datum
import DumpSummary.Text.Numeral

/-!
# The fields of settings

How the value of a field is read.  Readings are generous where the meaning is clear: a number may be written as a
text, a truth value as a word or as 0 or 1.  How generous they are is a matter of its own, a choice of *coercions*; what
a dialect, a choice or an indentation may be is not.

## Contents

* `FieldFault`, `FieldFault.code`, `FieldFault.message?`: what is wrong with a field;
* `Field.text`, `Field.truth`, `Field.whole`: texts, truth values and whole numbers;
* `Coercions`, `Coercions.own`: how these are read;
* `Field.choice`, `Field.dialect`, `Field.indent`: the fields with rules of their own.
-/

namespace DumpSummary

/-- What is wrong with a field. -/
inductive FieldFault
  /-- A section is no record. -/
  | notRecord
  /-- The value is no text. -/
  | notText
  /-- The value is bytes that are no text. -/
  | badBytes
  /-- The text names no dialect. -/
  | unknownDialect
  /-- The value is none of the listed ones. -/
  | notListed
  /-- The value writes no truth value. -/
  | notTruth
  /-- The value is of a kind that no truth value is written in. -/
  | noTruthKind
  /-- The value writes no whole number. -/
  | notWhole
  /-- The number has too many digits. -/
  | tooLong
  /-- The number is not whole. -/
  | fraction
  /-- The number is an infinity or none. -/
  | notFinite
  /-- The value is of a kind that no whole number is written in. -/
  | noWholeKind
  /-- The number is too small. -/
  | tooSmall
  /-- The number is too great. -/
  | tooGreat
  deriving DecidableEq, Repr

namespace FieldFault

/-- The code by which reports name the fault. -/
def code : FieldFault → String
  | .notRecord => "model_type"
  | .notText => "string_type"
  | .badBytes => "string_unicode"
  | .unknownDialect => "value_error"
  | .notListed => "literal_error"
  | .notTruth => "bool_parsing"
  | .noTruthKind => "bool_type"
  | .notWhole => "int_parsing"
  | .tooLong => "int_parsing_size"
  | .fraction => "int_from_float"
  | .notFinite => "finite_number"
  | .noWholeKind => "int_type"
  | .tooSmall => "greater_than_equal"
  | .tooGreat => "less_than_equal"

/-- The message about a dialect; the other faults speak for themselves. -/
def message? : FieldFault → Option String
  | .unknownDialect =>
    some ("Value error, dialect must be one of: " ++ String.intercalate ", " Dialect.configurable)
  | _ => none

end FieldFault

namespace Field

open Yaml (Datum)

/-! ## Texts -/

/-- The text of bytes in UTF-8. -/
def bytesText? (bs : Bytes) : Option (List Char) :=
  (Text.Utf8.decode 0 bs).toOption

/-- A text. -/
def text : Datum → Except FieldFault String
  | .text s => .ok s
  | .bytes bs =>
    match bytesText? bs with
    | some cs => .ok (String.ofList cs)
    | none => .error .badBytes
  | _ => .error .notText

/-! ## Truth values -/

/-- The words for true. -/
def trueWords : List String := ["1", "on", "t", "true", "y", "yes"]

/-- The words for false. -/
def falseWords : List String := ["0", "off", "f", "false", "n", "no"]

/-- The truth value of a word, in any letter case. -/
def truthWord (cs : List Char) : Except FieldFault Bool :=
  let word := String.ofList (cs.map Char.toLower)
  if trueWords.contains word then .ok true
  else if falseWords.contains word then .ok false
  else .error .notTruth

/-- Whether a number fits a machine word of 64 bits with a sign. -/
def fitsWord (n : Int) : Bool := n == n.bmod (1 <<< 64)

/-- The truth value of a number. -/
def truthNumber (n : Int) : Except FieldFault Bool :=
  if n == 0 then .ok false
  else if n == 1 then .ok true
  else if fitsWord n then .error .notTruth
  else .error .noTruthKind

/-- A truth value. -/
def truth : Datum → Except FieldFault Bool
  | .bool b => .ok b
  | .text s => truthWord s.toList
  | .bytes bs =>
    match bytesText? bs with
    | some cs => truthWord cs
    | none => .error .notTruth
  | .int n => truthNumber n
  | .float x =>
    match x.integer? with
    | some n => truthNumber n
    | none => .error .noTruthKind
  | _ => .error .noTruthKind

/-! ## Whole numbers -/

/-- The value of a digit of ASCII. -/
def asciiDigit? (c : Char) : Option Nat :=
  if c.isDigit then some (c.toNat - 48) else none

/-- The whole number of a text: a sign, digits, and possibly a point with zeros only behind it. -/
def wholeText (cs : List Char) : Except FieldFault Int :=
  let (negative, unsigned) := Text.splitSign (Text.trimSpaces cs)
  let whole := unsigned.takeWhile (· != '.')
  let fraction := (unsigned.dropWhile (· != '.')).drop 1
  match Text.groupedDigits? asciiDigit? false whole with
  | none => .error .notWhole
  | some ds =>
    if !fraction.all (· == '0') then .error .notWhole
    else if ds.length > Text.maxDigits then .error .tooLong
    else .ok (Text.signedNumber negative ds)

/-- The whole number of a floating-point number. -/
def wholeFloat (x : Binary64) : Except FieldFault Int :=
  match x with
  | .finite _ _ _ =>
    match x.integer? with
    | some n => if fitsWord n then .ok n else .error .tooLong
    | none => .error .fraction
  | _ => .error .notFinite

/-- A whole number. -/
def whole : Datum → Except FieldFault Int
  | .int n => .ok n
  | .bool b => .ok (if b then 1 else 0)
  | .float x => wholeFloat x
  | .text s => wholeText s.toList
  | .bytes bs =>
    match bytesText? bs with
    | some cs => wholeText cs
    | none => .error .notWhole
  | _ => .error .noWholeKind

end Field

/-- How texts, truth values and whole numbers are read. -/
structure Coercions where
  /-- A text. -/
  text : Yaml.Datum → Except FieldFault String
  /-- A truth value. -/
  truth : Yaml.Datum → Except FieldFault Bool
  /-- A whole number. -/
  whole : Yaml.Datum → Except FieldFault Int

/-- The coercions of this library. -/
def Coercions.own : Coercions := ⟨Field.text, Field.truth, Field.whole⟩

namespace Field

open Yaml (Datum)

/-! ## Fields with rules of their own -/

/-- One of the listed values, in exactly its spelling. -/
def choice {α : Type} (ofName? : String → Option α) : Datum → Except FieldFault α
  | .text s =>
    match ofName? s with
    | some a => .ok a
    | none => .error .notListed
  | _ => .error .notListed

/-- The small letter of a letter of ASCII, for which the Kelvin sign also stands. -/
def small (c : Char) : Char :=
  if c == '\u212a' then 'k' else c.toLower

/-- The name of a dialect, in any letter case. -/
def dialect (c : Coercions) (d : Datum) : Except FieldFault String := do
  let name := String.ofList ((← c.text d).toList.map small)
  if Dialect.configurable.contains name then return name else throw .unknownDialect

/-- An indentation. -/
def indent (c : Coercions) (d : Datum) : Except FieldFault Nat := do
  let n ← c.whole d
  if n < 0 then throw .tooSmall
  else if n > Settings.maxIndent then throw .tooGreat
  else return n.toNat

end Field
end DumpSummary
