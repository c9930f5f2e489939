/-!
# Blank characters

What counts as space around and between statements: the characters with the Unicode property `White_Space`
and the four information separators U+001C to U+001F.

## Contents

* `isBlank`: the class;
* `stripLeft`, `stripRight`, `strip`: a text without the blanks at its ends;
* `words`: the maximal runs of other characters.
-/

namespace DumpSummary.Text

/-- Space, a control that moves the writing position, an information separator or a Unicode space. -/
def isBlank (c : Char) : Bool :=
  let n := c.toNat
  (9 ≤ n && n ≤ 13) || (28 ≤ n && n ≤ 32) || n == 0x85 || n == 0xa0 || n == 0x1680
    || (0x2000 ≤ n && n ≤ 0x200a) || n == 0x2028 || n == 0x2029 || n == 0x202f || n == 0x205f || n == 0x3000

/-- The text without its leading blanks. -/
def stripLeft (cs : List Char) : List Char :=
  cs.dropWhile isBlank

/-- The text without its trailing blanks. -/
def stripRight (cs : List Char) : List Char :=
  (cs.reverse.dropWhile isBlank).reverse

/-- The text without the blanks at its ends. -/
def strip (cs : List Char) : List Char :=
  stripRight (stripLeft cs)

/-- The maximal blank-free runs of a text, in order; `run` holds the current one, last character first. -/
def words.loop : List Char → List Char → List (List Char)
  | [], run => if run.isEmpty then [] else [run.reverse]
  | c :: cs, run =>
    if isBlank c then
      if run.isEmpty then loop cs [] else run.reverse :: loop cs []
    else loop cs (c :: run)

/-- The maximal blank-free runs of a text, in order. -/
def words (cs : List Char) : List (List Char) :=
  words.loop cs []

end DumpSummary.Text
