import DumpSummary.Yaml.Fault

/-!
# A place in a document

Reading a document moves a cursor over its characters and counts lines and columns, since the layout carries
meaning.  The end of the document reads as the character NUL, which no document holds.

## Contents

* `Yaml.isBreak`, `Yaml.isBlankOrEnd`: classes of characters;
* `Yaml.Cursor`: the place and what follows it;
* `Cursor.peek`, `Cursor.advance`, `Cursor.skip`, `Cursor.take`: looking and moving;
* `Cursor.lineBreak?`: moving over a line break.
-/

namespace DumpSummary.Yaml

/-- What the end of a document reads as. -/
def endMark : Char := '\x00'

/-- The characters that end a line. -/
def isBreak (c : Char) : Bool :=
  c == '\n' || c == '\r' || c == '\u0085' || c == '\u2028' || c == '\u2029'

/-- A line end or the end of the document. -/
def isBreakOrEnd (c : Char) : Bool :=
  c == endMark || isBreak c

/-- A space, a line end or the end of the document. -/
def isSpaceOrEnd (c : Char) : Bool :=
  c == ' ' || isBreakOrEnd c

/-- A space, a tab, a line end or the end of the document. -/
def isBlankOrEnd (c : Char) : Bool :=
  c == '\t' || isSpaceOrEnd c

/-- Letters, digits, hyphen and low line: what names are made of. -/
def isNameChar (c : Char) : Bool :=
  c.isAlphanum || c == '-' || c == '_'

/-- A digit of a hexadecimal number. -/
def isHexDigit (c : Char) : Bool :=
  c.isDigit || ('a' ≤ c && c ≤ 'f') || ('A' ≤ c && c ≤ 'F')

/-- A place in a document and what follows it. -/
structure Cursor where
  /-- The characters from here on. -/
  rest : List Char
  /-- How many characters stand before. -/
  index : Nat
  /-- How many lines have ended before. -/
  line : Nat
  /-- How many characters of the line stand before. -/
  column : Nat
  deriving Repr

namespace Cursor

/-- The beginning of a text. -/
def start (cs : List Char) : Cursor := ⟨cs, 0, 0, 0⟩

/-- The character `n` places ahead. -/
def peekAt (c : Cursor) (n : Nat) : Char := (c.rest[n]?).getD endMark

/-- The character at the place. -/
def peek (c : Cursor) : Char := c.peekAt 0

/-- Whether the document ends here. -/
def atEnd (c : Cursor) : Bool := c.peek == endMark

/-- The place after the next character.  A return before a line feed leaves the line to the line feed, and a byte
order mark takes no column. -/
def next (c : Cursor) : Cursor :=
  match c.rest with
  | [] => c
  | a :: rest =>
    let endsLine := if a == '\r' then rest.head? != some '\n' else isBreak a
    if endsLine then ⟨rest, c.index + 1, c.line + 1, 0⟩
    else ⟨rest, c.index + 1, c.line, if a == '\ufeff' then c.column else c.column + 1⟩

/-- The place after the next `n` characters. -/
def advance : Nat → Cursor → Cursor
  | 0, c => c
  | n + 1, c => advance n c.next

/-- The place after the characters of a class. -/
def skip (p : Char → Bool) (c : Cursor) : Cursor :=
  c.advance (c.rest.takeWhile p).length

/-- The characters of a class ahead, and the place after them. -/
def take (p : Char → Bool) (c : Cursor) : List Char × Cursor :=
  (c.rest.takeWhile p, c.skip p)

/-- Moves over spaces, but not beyond a column. -/
def skipSpacesTo (column : Nat) (c : Cursor) : Cursor :=
  c.advance (min (c.rest.takeWhile (· == ' ')).length (column - c.column))

/-- The line break ahead, as a line feed unless it is a separator of its own, and the place after it. -/
def lineBreak? (c : Cursor) : Option (Char × Cursor) :=
  match c.rest with
  | '\r' :: '\n' :: _ => some ('\n', c.advance 2)
  | a :: _ =>
    if a == '\n' || a == '\r' || a == '\u0085' then some ('\n', c.next)
    else if a == '\u2028' || a == '\u2029' then some (a, c.next)
    else none
  | [] => none

/-- Whether three equal characters and then a blank or the end are ahead: a document begins or ends here, if it is
the beginning of a line. -/
def atDocumentMark (c : Cursor) : Bool :=
  (c.rest.take 3 == ['-', '-', '-'] || c.rest.take 3 == ['.', '.', '.']) && isBlankOrEnd (c.peekAt 3)

/-- Moves over a comment, if there is one. -/
def skipComment (c : Cursor) : Cursor :=
  if c.peek == '#' then c.skip fun a => !isBreakOrEnd a else c

end Cursor
end DumpSummary.Yaml
