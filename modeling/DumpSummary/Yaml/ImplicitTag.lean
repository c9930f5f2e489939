/-!
# The tags of plain scalars

A plain scalar without a tag is a truth value, a number, a null, a date or one of two special signs if it is written
like one, and a text otherwise.

## Contents

* `Yaml.standardTag`: the full name of a tag;
* `Yaml.isWholeNumber`, `Yaml.isPointNumber`: how numbers are written;
* `Yaml.Timestamp`, `Yaml.timestamp?`: a date, possibly with a time, and its reading;
* `Yaml.plainTag`: the tag of a plain scalar.
-/

namespace DumpSummary.Yaml

/-- The beginning of the tags that the format itself defines. -/
def standardTags : String := "tag:yaml.org,2002:"

/-- The full name of a tag that the format itself defines. -/
def standardTag (name : String) : String := standardTags ++ name

/-! ## Words -/

/-- The words for null. -/
def nullWords : List String := ["", "~", "null", "Null", "NULL"]

/-- The words for truth values, each in three spellings. -/
def truthWords : List String :=
  ["yes", "Yes", "YES", "no", "No", "NO", "true", "True", "TRUE", "false", "False", "FALSE", "on", "On", "ON",
    "off", "Off", "OFF"]

/-! ## Numbers -/

/-- The text without a sign at its head. -/
def unsigned : List Char → List Char
  | '+' :: cs => cs
  | '-' :: cs => cs
  | cs => cs

/-- A non-empty text of characters of a class. -/
def isRun (p : Char → Bool) (cs : List Char) : Bool :=
  !cs.isEmpty && cs.all p

/-- A decimal digit or a low line. -/
def isDigitOrLine (c : Char) : Bool := c.isDigit || c == '_'

/-- A number below sixty after a colon. -/
def isSixtieth : List Char → Bool
  | [a] => a.isDigit
  | [a, b] => '0' ≤ a && a ≤ '5' && b.isDigit
  | _ => false

/-- The parts of a text between occurrences of a character. -/
def splitAt (sep : Char) : List Char → List (List Char)
  | [] => [[]]
  | c :: cs =>
    if c == sep then [] :: splitAt sep cs
    else match splitAt sep cs with
      | [] => [[c]]
      | part :: parts => (c :: part) :: parts

/-- Whether the text is a whole number: binary, octal, decimal, hexadecimal, or to the base sixty. -/
def isWholeNumber (cs : List Char) : Bool :=
  match unsigned cs with
  | ['0'] => true
  | '0' :: 'b' :: ds => isRun (fun c => c == '0' || c == '1' || c == '_') ds
  | '0' :: 'x' :: ds => isRun (fun c => c.isDigit || ('a' ≤ c && c ≤ 'f') || ('A' ≤ c && c ≤ 'F') || c == '_') ds
  | '0' :: ds => isRun (fun c => ('0' ≤ c && c ≤ '7') || c == '_') ds
  | d :: ds =>
    d.isDigit && match splitAt ':' ds with
      | [] => false
      | whole :: parts => whole.all isDigitOrLine && parts.all isSixtieth
  | [] => false

/-- An exponent with its sign, or nothing. -/
def isExponent : List Char → Bool
  | [] => true
  | e :: s :: ds => (e == 'e' || e == 'E') && (s == '+' || s == '-') && isRun Char.isDigit ds
  | _ => false

/-- The words for infinities, after their point. -/
def infinityWords : List (List Char) := ["inf", "Inf", "INF"].map String.toList

/-- The words for no number, after their point. -/
def nanWords : List (List Char) := ["nan", "NaN", "NAN"].map String.toList

/-- Whether the text is a number with a point, or one of the words for infinities and no number. -/
def isPointNumber (cs : List Char) : Bool :=
  let body := unsigned cs
  let whole := body.takeWhile (· != '.')
  match body.dropWhile (· != '.') with
  | '.' :: fraction =>
    let rest := fraction.dropWhile isDigitOrLine
    if whole.isEmpty then
      infinityWords.contains fraction
        || (body == cs && nanWords.contains fraction)
        || (body == cs && (fraction.head?.map Char.isDigit).getD false && isExponent rest)
    else
      match splitAt ':' whole with
      | [] => false
      | first :: parts =>
        (first.head?.map Char.isDigit).getD false && first.all isDigitOrLine && parts.all isSixtieth
          && (if parts.isEmpty then isExponent rest else rest.isEmpty)
  | _ => false

/-! ## Dates -/

/-- A date, possibly with a time of day and an offset, as written. -/
structure Timestamp where
  /-- The year. -/
  year : Nat
  /-- The month. -/
  month : Nat
  /-- The day. -/
  day : Nat
  /-- Hour, minute and second. -/
  time : Option (Nat × Nat × Nat)
  /-- The offset in minutes, where one is given by numbers. -/
  offset : Option Int
  deriving DecidableEq, Repr

/-- The number of a run of digits whose length lies between bounds, and the rest. -/
def digitsBetween (least most : Nat) (cs : List Char) : Option (Nat × List Char) :=
  let ds := (cs.takeWhile Char.isDigit).take most
  if ds.length < least then none
  else some (ds.foldl (fun n d => 10 * n + (d.toNat - 48)) 0, cs.drop ds.length)

/-- The text after a character. -/
def after (c : Char) : List Char → Option (List Char)
  | a :: cs => if a == c then some cs else none
  | [] => none

/-- The offset at the end of a time: nothing, `Z`, or hours and possibly minutes with a sign. -/
def offset? (cs : List Char) : Option (Option Int) :=
  match cs.dropWhile fun c => c == ' ' || c == '\t' with
  | [] => if cs.isEmpty then some none else none
  | ['Z'] => some none
  | s :: rest =>
    if s == '+' || s == '-' then do
      let (hours, rest) ← digitsBetween 1 2 rest
      let minutes : Int ← match rest with
        | [] => some 0
        | ':' :: rest =>
          match digitsBetween 2 2 rest with
          | some (m, []) => some (m : Int)
          | _ => none
        | _ => none
      let total : Int := 60 * hours + minutes
      return some (if s == '-' then -total else total)
    else none

/-- The time of day and its offset, after a date. -/
def timeOfDay? (cs : List Char) : Option ((Nat × Nat × Nat) × Option Int) := do
  let rest ← match cs with
    | 'T' :: rest => some rest
    | 't' :: rest => some rest
    | c :: rest => if c == ' ' || c == '\t' then some (rest.dropWhile fun c => c == ' ' || c == '\t') else none
    | [] => none
  let (hour, rest) ← digitsBetween 1 2 rest
  let rest ← after ':' rest
  let (minute, rest) ← digitsBetween 2 2 rest
  let rest ← after ':' rest
  let (second, rest) ← digitsBetween 2 2 rest
  let rest := match rest with
    | '.' :: fraction => fraction.dropWhile Char.isDigit
    | rest => rest
  let offset ← offset? rest
  return ((hour, minute, second), offset)

/-- A date that a text writes: four digits of the year, then month and day. -/
def timestamp? (cs : List Char) : Option Timestamp := do
  let (year, rest) ← digitsBetween 4 4 cs
  let rest ← after '-' rest
  let (month, rest) ← digitsBetween 1 2 rest
  let rest ← after '-' rest
  let (day, rest) ← digitsBetween 1 2 rest
  if rest.isEmpty then return ⟨year, month, day, none, none⟩
  else
    let (time, offset) ← timeOfDay? rest
    return ⟨year, month, day, some time, offset⟩

/-- Whether a plain scalar is a date: without a time, month and day have two digits. -/
def isTimestamp (cs : List Char) : Bool :=
  match timestamp? cs with
  | some t => t.time.isSome || cs.length == 10
  | none => false

/-! ## The tag -/

/-- The tag of a plain scalar. -/
def plainTag (text : String) : String :=
  let cs := text.toList
  standardTag <|
    if truthWords.contains text then "bool"
    else if isPointNumber cs then "float"
    else if isWholeNumber cs then "int"
    else if text == "<<" then "merge"
    else if nullWords.contains text then "null"
    else if isTimestamp cs then "timestamp"
    else if text == "=" then "value"
    else "str"

end DumpSummary.Yaml
