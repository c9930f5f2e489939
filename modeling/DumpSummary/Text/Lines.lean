/-!
# Line ends

A text that is read from a file has one kind of line end: a return, alone or before a line feed, counts as a line
feed.

## Contents

* `unifyLines`: the text with line feeds only;
* `firstLine`: the text before the first line feed.
-/

namespace DumpSummary.Text

/-- The text with every line end written as a line feed. -/
def unifyLines : List Char → List Char
  | [] => []
  | '\r' :: '\n' :: cs => '\n' :: unifyLines cs
  | '\r' :: cs => '\n' :: unifyLines cs
  | c :: cs => c :: unifyLines cs

/-- The text before the first line feed. -/
def firstLine (s : String) : String :=
  String.ofList (s.toList.takeWhile (· != '\n'))

end DumpSummary.Text
