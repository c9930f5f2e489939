import DumpSummary.Text.Blank
import DumpSummary.Text.Quoted

/-!
# Numerals

What user-written numbers have in common: spaces around them, a sign, and digits with single low lines between them, of
which there may not be too many.

## Contents

* `trimSpaces`: a text without the spaces at its ends;
* `splitSign`: the sign of a number and the rest;
* `groupedDigits?`: the values of digits that low lines may group;
* `maxDigits`, `tooManyDigits`: how many digits a number may have;
* `invalidLiteral`: the message about a text that is no number.
-/

namespace DumpSummary.Text

/-- The spaces that may surround a number: all blanks but the information separators. -/
def isSpace (c : Char) : Bool :=
  isBlank c && !(28 ≤ c.toNat && c.toNat ≤ 31)

/-- The text without the spaces at its ends. -/
def trimSpaces (cs : List Char) : List Char :=
  ((cs.dropWhile isSpace).reverse.dropWhile isSpace).reverse

/-- Whether a minus sign stands at the head, and the text without its sign. -/
def splitSign : List Char → Bool × List Char
  | '-' :: cs => (true, cs)
  | '+' :: cs => (false, cs)
  | cs => (false, cs)

/-- The values of digits, of which there is at least one, with low lines between digits only; `more` tells that a digit
stands before. -/
def groupedDigits? (digit? : Char → Option Nat) (more : Bool) : List Char → Option (List Nat)
  | [] => if more then some [] else none
  | c :: cs =>
    match digit? c with
    | some d => (groupedDigits? digit? true cs).map (d :: ·)
    | none => if c == '_' && more then groupedDigits? digit? false cs else none

/-- The number of decimal digits, with its sign. -/
def signedNumber (negative : Bool) (ds : List Nat) : Int :=
  let n : Int := (ds.foldl (fun n d => 10 * n + d) 0 : Nat)
  if negative then -n else n

/-- The greatest number of decimal digits that a whole number is read from or written with. -/
def maxDigits : Nat := 4300

/-- The message about a text of more digits. -/
def tooManyDigits (count : Nat) : String :=
  "Exceeds the limit (" ++ Nat.repr maxDigits ++ " digits) for integer string conversion: value has " ++ Nat.repr count
    ++ " digits; use sys.set_int_max_str_digits() to increase the limit"

/-- The message about a text that is no number in a base; it shows the beginning of the text. -/
def invalidLiteral (base : Nat) (text : String) : String :=
  "invalid literal for int() with base " ++ Nat.repr base ++ ": " ++ String.ofList ((quoted text).toList.take 200)

end DumpSummary.Text
