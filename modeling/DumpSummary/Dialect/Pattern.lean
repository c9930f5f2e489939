import DumpSummary.Text.Caseless
import DumpSummary.Text.Word
import DumpSummary.Text.Blank

/-!
# Search patterns

Small patterns for spotting words and signs in a text.  A pattern is a list of items; it occurs in a text if
some place of the text begins with characters that the items accept one after another.

## Contents

* `CharClass`, `Item`, `Pattern`: the patterns;
* `matchesAt`: whether a pattern accepts at a place;
* `occursIn`: whether it occurs in a text.
-/

namespace DumpSummary.Dialect

/-- A class of characters. -/
inductive CharClass
  /-- One letter or sign; the case of letters is ignored. -/
  | only (c : Char)
  /-- Blank characters. -/
  | blank
  /-- Word characters. -/
  | word
  /-- Word characters and one more sign. -/
  | wordOr (c : Char)
  /-- Everything but one sign and the line feed. -/
  | insideOf (c : Char)
  deriving DecidableEq, Repr

/-- Whether a character is of the class. -/
def CharClass.accepts : CharClass → Char → Bool
  | .only c, x => Text.caseless x == Text.caseless c
  | .blank, x => Text.isBlank x
  | .word, x => Text.isWord x
  | .wordOr c, x => Text.isWord x || x == c
  | .insideOf c, x => x ≠ c && x ≠ '\n'

/-- One item of a pattern. -/
inductive Item
  /-- The start of the text or of a line. -/
  | lineStart
  /-- The end of the text or of a line. -/
  | lineEnd
  /-- A place where a word begins or ends. -/
  | wordEdge
  /-- One character of the class. -/
  | one (k : CharClass)
  /-- Any number of characters of the class. -/
  | many (k : CharClass)
  /-- At least one character of the class. -/
  | oneOrMore (k : CharClass)
  deriving DecidableEq, Repr

/-- A pattern: items to be accepted in order. -/
abbrev Pattern := List Item

/-- Whether a place is an edge of a word, by the characters before and after it. -/
def isWordEdge (before after : Option Char) : Bool :=
  before.any Text.isWord != after.any Text.isWord

/-- Any number of characters of the class, and then what follows. -/
def manyThen (k : CharClass) (next : Option Char → List Char → Bool) (before : Option Char) :
    List Char → Bool
  | [] => next before []
  | c :: cs => next before (c :: cs) || (k.accepts c && manyThen k next (some c) cs)

/-- Whether the pattern accepts at a place, given the character before it and the text after it. -/
def matchesAt : Pattern → Option Char → List Char → Bool
  | [], _, _ => true
  | .lineStart :: p, before, cs => before.all (· == '\n') && matchesAt p before cs
  | .lineEnd :: p, before, cs => cs.head?.all (· == '\n') && matchesAt p before cs
  | .wordEdge :: p, before, cs => isWordEdge before cs.head? && matchesAt p before cs
  | .one k :: p, _, cs =>
    match cs with
    | [] => false
    | c :: rest => k.accepts c && matchesAt p (some c) rest
  | .many k :: p, before, cs => manyThen k (matchesAt p) before cs
  | .oneOrMore k :: p, _, cs =>
    match cs with
    | [] => false
    | c :: rest => k.accepts c && manyThen k (matchesAt p) (some c) rest

/-- Whether the pattern occurs in the text that follows a character. -/
def occursAfter (p : Pattern) (before : Option Char) : List Char → Bool
  | [] => matchesAt p before []
  | c :: cs => matchesAt p before (c :: cs) || occursAfter p (some c) cs

/-- Whether the pattern occurs in a text. -/
def occursIn (p : Pattern) (cs : List Char) : Bool :=
  occursAfter p none cs

end DumpSummary.Dialect
