import DumpSummary.Value.Basic
import DumpSummary.Number.Shortest
import DumpSummary.Text.Numeral
import DumpSummary.Text.Quoted

/-!
# Values as text

The one-line text of a value in type strings and log messages: lists in brackets, records in braces, texts
inside them quoted.  A whole number with more digits than are written has no text; a value without such numbers is
*short*, and the records of statements are.

## Contents

* `Value.isShort`: values whose whole numbers can be written;
* `Value.quoted`: the text with quotes around texts;
* `Value.plain`: the same, but a text alone is shown as it is;
* `Value.parameter`: the text of a type parameter.
-/

namespace DumpSummary.Value

mutual

/-- Whether the whole numbers in a value have no more digits than are written. -/
def isShort : Value → Bool
  | .int n => (Nat.toDigits 10 n.natAbs).length ≤ Text.maxDigits
  | .list items => areShort items
  | .record fields => fieldsAreShort fields
  | _ => true

/-- The same of all items of a list. -/
def areShort : List Value → Bool
  | [] => true
  | v :: vs => isShort v && areShort vs

/-- The same of all fields of a record. -/
def fieldsAreShort : List (String × Value) → Bool
  | [] => true
  | (_, v) :: fs => isShort v && fieldsAreShort fs

end

/-- The text of a whole number, which is taken to be short. -/
def integerText (n : Int) : String :=
  if n < 0 then "-" ++ Nat.repr n.natAbs else Nat.repr n.natAbs

mutual

/-- The text of a value, texts in quotes. -/
def quoted : Value → String
  | .null => "None"
  | .bool b => if b then "True" else "False"
  | .int n => integerText n
  | .float x => NumberFormat.standard.text x
  | .text s => Text.quoted s
  | .list items => "[" ++ String.intercalate ", " (quotedItems items) ++ "]"
  | .record fields => "\x7b" ++ String.intercalate ", " (quotedFields fields) ++ "\x7d"

/-- The texts of the items of a list. -/
def quotedItems : List Value → List String
  | [] => []
  | v :: vs => quoted v :: quotedItems vs

/-- The texts of the fields of a record. -/
def quotedFields : List (String × Value) → List String
  | [] => []
  | (k, v) :: fs => (Text.quoted k ++ ": " ++ quoted v) :: quotedFields fs

end

/-- The text of a value; a text is shown as it is. -/
def plain : Value → String
  | .text s => s
  | v => quoted v

/-- The text of a type parameter: a floating-point number with a whole value is shown as that whole number. -/
def parameter : Value → String
  | .float x =>
    match x.integer? with
    | some n => integerText n
    | none => quoted (.float x)
  | v => plain v

end DumpSummary.Value
