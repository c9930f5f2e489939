import DumpSummary.Value.Display

/-!
# Values as JSON text

The written form is pure ASCII: a character outside ASCII is written as one or two `\u` escapes.  A text is laid
out on one line, or with each item and field on a line of its own.

Every value has a text, but not every text is written: an indentation has to be an index of the machine, and a whole
number must not have too many digits.

## Contents

* `Json.escapedChar`: a character inside a string;
* `Json.Layout`: one line, or lines indented by a width;
* `Json.write`: the text of a value;
* `Json.Fault`, `Json.dump`: the text, where it can be written.
-/

namespace DumpSummary.Json

/-- How a text is laid out. -/
inductive Layout
  /-- On one line, with a space after each comma and colon. -/
  | line
  /-- Each item and field on its own line, indented by the width for each level. -/
  | lines (width : Nat)
  deriving DecidableEq, Repr

/-- The layout of an indentation setting: none and zero mean one line; a negative width gives line breaks
without indentation. -/
def Layout.ofIndent : Option Int → Layout
  | none => .line
  | some n => if n = 0 then .line else .lines n.toNat

/-- A `\u` escape of one 16-bit unit. -/
def unitEscape (n : Nat) : List Char :=
  '\\' :: 'u' :: Text.hexDigits 4 n

/-- A character inside a string.  Quote, backslash and the usual controls have short escapes; the other
controls and everything outside ASCII are written in 16-bit units. -/
def escapedChar (c : Char) : List Char :=
  let n := c.toNat
  if c == '\x22' then ['\\', '\x22']
  else if c == '\\' then ['\\', '\\']
  else if n == 8 then ['\\', 'b']
  else if n == 9 then ['\\', 't']
  else if n == 10 then ['\\', 'n']
  else if n == 12 then ['\\', 'f']
  else if n == 13 then ['\\', 'r']
  else if 32 ≤ n && n < 127 then [c]
  else if n < 0x10000 then unitEscape n
  else unitEscape (0xd800 + (n - 0x10000) / 0x400) ++ unitEscape (0xdc00 + (n - 0x10000) % 0x400)

/-- A string literal. -/
def stringLiteral (s : String) : List Char :=
  '\x22' :: s.toList.flatMap escapedChar ++ ['\x22']

/-- A whole number, however many digits it has. -/
def integerLiteral (n : Int) : List Char :=
  if n < 0 then '-' :: Nat.toDigits 10 n.natAbs else Nat.toDigits 10 n.natAbs

/-- A floating-point number; infinities and no number are written as words. -/
def numberLiteral (x : Binary64) : List Char :=
  match x with
  | .nan => "NaN".toList
  | .infinite s => if s then "-Infinity".toList else "Infinity".toList
  | x => (NumberFormat.standard.text x).toList

/-- What separates two items at a depth. -/
def Layout.separator (l : Layout) (depth : Nat) : List Char :=
  match l with
  | .line => [',', ' ']
  | .lines w => ',' :: '\n' :: List.replicate (w * depth) ' '

/-- What stands between a bracket and the item next to it, at the depth that follows. -/
def Layout.edge (l : Layout) (depth : Nat) : List Char :=
  match l with
  | .line => []
  | .lines w => '\n' :: List.replicate (w * depth) ' '

mutual

/-- The text of a value at a depth. -/
def writeAt (l : Layout) (depth : Nat) : Value → List Char
  | .null => "null".toList
  | .bool b => if b then "true".toList else "false".toList
  | .int n => integerLiteral n
  | .float x => numberLiteral x
  | .text s => stringLiteral s
  | .list [] => ['[', ']']
  | .list (v :: vs) =>
    '[' :: l.edge (depth + 1) ++ writeAt l (depth + 1) v ++ writeItems l (depth + 1) vs ++ l.edge depth ++ [']']
  | .record [] => ['\x7b', '\x7d']
  | .record ((k, v) :: fs) =>
    '\x7b' :: l.edge (depth + 1) ++ stringLiteral k ++ [':', ' '] ++ writeAt l (depth + 1) v
      ++ writeFields l (depth + 1) fs ++ l.edge depth ++ ['\x7d']

/-- The items after the first, each behind a separator. -/
def writeItems (l : Layout) (depth : Nat) : List Value → List Char
  | [] => []
  | v :: vs => l.separator depth ++ writeAt l depth v ++ writeItems l depth vs

/-- The fields after the first, each behind a separator. -/
def writeFields (l : Layout) (depth : Nat) : List (String × Value) → List Char
  | [] => []
  | (k, v) :: fs =>
    l.separator depth ++ stringLiteral k ++ [':', ' '] ++ writeAt l depth v ++ writeFields l depth fs

end

/-- The text of a value. -/
def write (l : Layout) (v : Value) : String :=
  String.ofList (writeAt l 0 v)

/-! ## What can be written -/

/-- Why a text is not written. -/
inductive Fault
  /-- The indentation is no index of the machine. -/
  | indentation
  /-- A whole number has too many digits. -/
  | digits
  deriving DecidableEq, Repr

/-- The message. -/
def Fault.message : Fault → String
  | .indentation => "cannot fit 'int' into an index-sized integer"
  | .digits =>
    "Exceeds the limit (" ++ Nat.repr Text.maxDigits
      ++ " digits) for integer string conversion; use sys.set_int_max_str_digits() to increase the limit"

/-- Whether an indentation setting is an index of the machine: a signed number of 64 bits. -/
def isIndex : Option Int → Bool
  | none => true
  | some n => -9223372036854775808 ≤ n && n ≤ 9223372036854775807

/-- The text of a value under an indentation setting, if it can be written.  An indentation is looked at before any
number is, whatever there is to indent. -/
def dump (indent : Option Int) (v : Value) : Except Fault String :=
  if !isIndex indent then .error .indentation
  else if !v.isShort then .error .digits
  else .ok (write (.ofIndent indent) v)

end DumpSummary.Json
