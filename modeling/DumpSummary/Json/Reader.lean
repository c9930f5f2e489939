import DumpSummary.Value.Basic

/-!
# Reading JSON text

A reader for the grammar of JSON.  A number with a fraction or an exponent is read as the nearest floating-point
number, any other as a whole number of any size.  A name that occurs twice in a record keeps its first place
and its last value.

## Contents

* `Json.skipBlanks`, `Json.readString`, `Json.readNumber`: the tokens;
* `Json.readValue`: a value at the head of a text, with the nesting depth as fuel;
* `Json.read?`: a whole text as a value.
-/

namespace DumpSummary.Json

/-- The blank characters of JSON. -/
def isSpace (c : Char) : Bool :=
  c == ' ' || c == '\t' || c == '\n' || c == '\r'

/-- The text after its leading blanks. -/
def skipBlanks (cs : List Char) : List Char :=
  cs.dropWhile isSpace

/-- The value of a hexadecimal digit. -/
def hexDigit? (c : Char) : Option Nat :=
  if c.isDigit then some (c.toNat - 48)
  else if 'a' ≤ c && c ≤ 'f' then some (c.toNat - 87)
  else if 'A' ≤ c && c ≤ 'F' then some (c.toNat - 55)
  else none

/-- The 16-bit unit of a `\u` escape, after the letter, and the rest. -/
def readUnit : List Char → Option (Nat × List Char)
  | a :: b :: c :: d :: cs => do
    return (4096 * (← hexDigit? a) + 256 * (← hexDigit? b) + 16 * (← hexDigit? c) + (← hexDigit? d), cs)
  | _ => none

/-- The character of an escape of one letter. -/
def shortEscape? (c : Char) : Option Char :=
  if c == '\x22' || c == '\\' || c == '/' then some c
  else if c == 'b' then some '\x08'
  else if c == 'f' then some '\x0c'
  else if c == 'n' then some '\n'
  else if c == 'r' then some '\r'
  else if c == 't' then some '\t'
  else none

/-- The character at the head of a string's inside, and the rest: a plain character or an escape.  Two units
that form a surrogate pair are one character; a surrogate alone is read as U+FFFD. -/
def readChar : List Char → Option (Char × List Char)
  | [] => none
  | c :: cs =>
    if c ≠ '\\' then (if c.toNat < 32 then none else some (c, cs))
    else match cs with
      | [] => none
      | e :: rest =>
        if e ≠ 'u' then (shortEscape? e).map (·, rest)
        else match readUnit rest with
          | none => none
          | some (hi, rest) =>
            if hi < 0xd800 || 0xe000 ≤ hi then some (Char.ofNat hi, rest)
            else match rest with
              | '\\' :: 'u' :: rest' =>
                match readUnit rest' with
                | some (lo, rest'') =>
                  if hi < 0xdc00 && 0xdc00 ≤ lo && lo < 0xe000 then
                    some (Char.ofNat (0x10000 + (hi - 0xd800) * 0x400 + (lo - 0xdc00)), rest'')
                  else some ('\ufffd', rest)
                | none => some ('\ufffd', rest)
              | _ => some ('\ufffd', rest)

/-- The inside of a string up to its closing quote, read so far in reverse; `fuel` bounds its length. -/
def readStringLoop : Nat → List Char → List Char → Option (String × List Char)
  | 0, _, _ => none
  | fuel + 1, done, cs =>
    match cs with
    | '\x22' :: rest => some (String.ofList done.reverse, rest)
    | cs =>
      match readChar cs with
      | some (c, rest) => readStringLoop fuel (c :: done) rest
      | none => none

/-- A string, after its opening quote. -/
def readString (cs : List Char) : Option (String × List Char) :=
  readStringLoop (cs.length + 1) [] cs

/-- The number that a run of decimal digits writes. -/
def digitsValue (ds : List Char) : Nat :=
  ds.foldl (fun n c => 10 * n + (c.toNat - 48)) 0

/-- The fraction of a number, without its point; empty where there is none. -/
def readFraction : List Char → Option (List Char × List Char)
  | '.' :: cs =>
    let ds := cs.takeWhile Char.isDigit
    if ds.isEmpty then none else some (ds, cs.dropWhile Char.isDigit)
  | cs => some ([], cs)

/-- The exponent of a number; `none` inside where there is none. -/
def readExponent : List Char → Option (Option Int × List Char)
  | c :: cs =>
    if c == 'e' || c == 'E' then
      let (negative, cs) := match cs with
        | '-' :: r => (true, r)
        | '+' :: r => (false, r)
        | r => (false, r)
      let ds := cs.takeWhile Char.isDigit
      if ds.isEmpty then none
      else
        let n : Int := digitsValue ds
        some (some (if negative then -n else n), cs.dropWhile Char.isDigit)
    else some (none, c :: cs)
  | [] => some (none, [])

/-- A number, with its sign. -/
def readNumber (cs : List Char) : Option (Value × List Char) :=
  let (negative, cs) := match cs with
    | '-' :: r => (true, r)
    | r => (false, r)
  let whole := cs.takeWhile Char.isDigit
  let leadingZero := match whole with
    | '0' :: _ :: _ => true
    | _ => false
  if whole.isEmpty || leadingZero then none
  else do
    let (fraction, cs) ← readFraction (cs.dropWhile Char.isDigit)
    let (exponent, cs) ← readExponent cs
    if fraction.isEmpty && exponent.isNone then
      let n : Int := digitsValue whole
      return (.int (if negative then -n else n), cs)
    else
      let m := digitsValue (whole ++ fraction)
      return (.float (Binary64.ofDecimal negative m (exponent.getD 0 - fraction.length)), cs)

/-- Puts a field into a record: a name that is there keeps its place and gets the new value. -/
def putField (fields : List (String × Value)) (key : String) (v : Value) : List (String × Value) :=
  if fields.any (·.1 == key) then fields.map fun f => if f.1 == key then (key, v) else f
  else fields ++ [(key, v)]

/-- Reads a word and gives it a value. -/
def readWord (word : String) (v : Value) (cs : List Char) : Option (Value × List Char) :=
  if word.toList.isPrefixOf cs then some (v, cs.drop word.length) else none

mutual

/-- The value at the head of a text, which does not begin with a blank, and the rest. -/
def readValue : Nat → List Char → Option (Value × List Char)
  | 0, _ => none
  | fuel + 1, cs =>
    match cs with
    | [] => none
    | '\x22' :: rest => (readString rest).map fun r => (.text r.1, r.2)
    | '[' :: rest =>
      match skipBlanks rest with
      | ']' :: rest => some (.list [], rest)
      | rest => readItems fuel [] rest
    | '\x7b' :: rest =>
      match skipBlanks rest with
      | '\x7d' :: rest => some (.record [], rest)
      | rest => readFields fuel [] rest
    | 'n' :: _ => readWord "null" .null cs
    | 't' :: _ => readWord "true" (.bool true) cs
    | 'f' :: _ => readWord "false" (.bool false) cs
    | _ => readNumber cs

/-- The items of a list from the next one on; `done` holds the earlier ones, last first. -/
def readItems : Nat → List Value → List Char → Option (Value × List Char)
  | 0, _, _ => none
  | fuel + 1, done, cs =>
    match readValue fuel cs with
    | none => none
    | some (v, rest) =>
      match skipBlanks rest with
      | ',' :: rest => readItems fuel (v :: done) (skipBlanks rest)
      | ']' :: rest => some (.list (v :: done).reverse, rest)
      | _ => none

/-- The fields of a record from the next one on; `done` holds the earlier ones. -/
def readFields : Nat → List (String × Value) → List Char → Option (Value × List Char)
  | 0, _, _ => none
  | fuel + 1, done, cs =>
    match cs with
    | '\x22' :: rest =>
      match readString rest with
      | none => none
      | some (key, rest) =>
        match skipBlanks rest with
        | ':' :: rest =>
          match readValue fuel (skipBlanks rest) with
          | none => none
          | some (v, rest) =>
            match skipBlanks rest with
            | ',' :: rest => readFields fuel (putField done key v) (skipBlanks rest)
            | '\x7d' :: rest => some (.record (putField done key v), rest)
            | _ => none
        | _ => none
    | _ => none

end

/-- A whole text as a value; blanks may surround it. -/
def read? (s : String) : Option Value :=
  let cs := skipBlanks s.toList
  match readValue (cs.length + 1) cs with
  | some (v, rest) => if (skipBlanks rest).isEmpty then some v else none
  | none => none

end DumpSummary.Json
