import DumpSummary.Text.Caseless
import DumpSummary.Text.Digit
import DumpSummary.Text.Word
import DumpSummary.Text.Quoted

/-!
# The form of log lines

A form is a text with fields like `%(name)s`: a percent sign, a word in parentheses, and a conversion with its flags,
width and precision.  A form without any such field is refused, except the empty one, which stands for the usual form.

## Contents

* `LogFormat.beginsField`: whether a text begins with a field;
* `LogFormat.isValid`: whether a form is accepted;
* `LogFormat.refusal`: the message about one that is not.
-/

namespace DumpSummary.LogFormat

/-- The letters of conversions. -/
def conversions : List Char :=
  ['d', 'i', 'o', 'u', 'x', 'e', 'f', 'g', 'c', 'r', 's', 'a', '%']

/-- The text after a star or a number, if there is one. -/
def skipAmount : List Char → List Char
  | '*' :: cs => cs
  | cs => cs.dropWhile fun c => (Text.digitValue? c).isSome

/-- The text after a precision, if there is one. -/
def skipPrecision : List Char → List Char
  | '.' :: cs =>
    let rest := skipAmount cs
    if rest.length < cs.length then rest else '.' :: cs
  | cs => cs

/-- Whether the text begins with a conversion. -/
def beginsConversion (cs : List Char) : Bool :=
  let flags := cs.dropWhile fun c => c == '#' || c == '0' || c == '+' || c == ' ' || c == '-'
  match skipPrecision (skipAmount flags) with
  | c :: _ => conversions.contains (Text.caseless c)
  | [] => false

/-- Whether the text begins with a field. -/
def beginsField : List Char → Bool
  | '%' :: '(' :: cs =>
    let name := cs.takeWhile Text.isWord
    match cs.drop name.length with
    | ')' :: rest => !name.isEmpty && beginsConversion rest
    | _ => false
  | _ => false

/-- Whether the text holds a field. -/
def hasField : List Char → Bool
  | [] => false
  | c :: cs => beginsField (c :: cs) || hasField cs

/-- Whether a form is accepted. -/
def isValid (form : String) : Bool :=
  form == "" || hasField form.toList

/-- The message about a form that is not accepted. -/
def refusal (form : String) : String :=
  "Invalid format '" ++ form ++ "' for '%' style"

end DumpSummary.LogFormat
