import DumpSummary.Text.Blank
import DumpSummary.Text.Word

/-!
# Splitting a script into statements

A semicolon ends a statement unless it stands inside a quoted run, a comment or a dollar-quoted body.  Comments
are left out of the text of a statement.  The splitter reads the script once, character by character; its state
says what kind of run it is in and what it has kept of the current statement.

## Contents

* `LineRange`, `Fragment`: a statement's text with its lines;
* `Rules`: what depends on the dialect;
* `Mode`, `Scan`: the state;
* `Scan.step`, `Scan.finish`: one character, the end of the script;
* `split`: the statements of a script.
-/

namespace DumpSummary.Script

/-- The lines of a statement, counted from one. -/
structure LineRange where
  /-- The line of its first character. -/
  first : Nat
  /-- The line of the semicolon that ends it, or the last line of the script. -/
  last : Nat
  deriving DecidableEq, Repr

/-- A statement of a script: its text without comments and outer blanks, and its lines. -/
structure Fragment where
  /-- The text. -/
  text : String
  /-- The lines. -/
  lines : LineRange
  deriving DecidableEq, Repr

/-- The rules of splitting that depend on the dialect. -/
structure Rules where
  /-- A number sign opens a comment to the end of the line. -/
  hashComments : Bool
  /-- Inside single quotes a backslash takes the next character with it. -/
  backslashEscapes : Bool
  /-- A dollar tag opens a body that the same tag closes. -/
  dollarBodies : Bool
  deriving DecidableEq, Repr

/-- The rules for a dialect name. -/
def Rules.ofDialect (dialect : Option String) : Rules :=
  ⟨dialect == some "mysql", dialect == some "mysql", dialect == some "postgres"⟩

/-- The kind of run that the splitter is in. -/
inductive Mode
  /-- Outside every run. -/
  | plain
  /-- Outside, after one hyphen that a second would make a comment. -/
  | hyphen
  /-- Outside, after one slash that a star would make a comment. -/
  | slash
  /-- In a quoted run, up to its delimiter. -/
  | quoted (delimiter : Char)
  /-- In a quoted run, after a backslash. -/
  | escaped (delimiter : Char)
  /-- In a comment up to the end of the line. -/
  | lineComment
  /-- In a comment up to a star and a slash; whether a star was just read. -/
  | blockComment (star : Bool)
  /-- After a dollar sign and these word characters, last first, which a second dollar sign makes a tag. -/
  | tag (word : List Char)
  /-- In a dollar-quoted body: its tag and what was read of it, both last character first. -/
  | body (tag read : List Char)
  deriving DecidableEq, Repr

/-- The state of the splitter. -/
structure Scan where
  /-- The kind of run. -/
  mode : Mode
  /-- The current line. -/
  line : Nat
  /-- What is kept of the current statement, last character first. -/
  kept : List Char
  /-- The line of the first character of the current statement that is not blank. -/
  start : Option Nat
  /-- The statements that have ended, last first. -/
  ended : List Fragment
  deriving DecidableEq, Repr

namespace Scan

/-- The state before the first character. -/
def initial : Scan := ⟨.plain, 1, [], none, []⟩

/-- Keeps a character of the current statement. -/
def keep (s : Scan) (c : Char) : Scan :=
  { s with
    kept := c :: s.kept
    start := if s.start.isNone && !Text.isBlank c then some s.line else s.start
    line := if c = '\n' then s.line + 1 else s.line }

/-- Passes over a character inside a comment. -/
def skip (s : Scan) (c : Char) : Scan :=
  { s with line := if c = '\n' then s.line + 1 else s.line }

/-- Goes into another run. -/
def enter (s : Scan) (mode : Mode) : Scan :=
  { s with mode := mode }

/-- A block comment inside a statement leaves a space. -/
def leaveSpace (s : Scan) : Scan :=
  if s.start.isSome then { s with kept := ' ' :: s.kept } else s

/-- Ends the current statement; one without text is dropped. -/
def endStatement (s : Scan) : Scan :=
  let text := Text.strip s.kept.reverse
  { s with
    kept := []
    start := none
    ended :=
      if text.isEmpty then s.ended
      else ⟨String.ofList text, s.start.getD 1, s.line⟩ :: s.ended }

/-- A character outside every run. -/
def stepPlain (r : Rules) (s : Scan) (c : Char) : Scan :=
  if c = '-' then s.enter .hyphen
  else if c = '/' then s.enter .slash
  else if c = '#' ∧ r.hashComments then s.enter .lineComment
  else if c = '$' ∧ r.dollarBodies then (s.keep c).enter (.tag [])
  else if c = '\x27' ∨ c = '\x22' ∨ c = '\x60' then (s.keep c).enter (.quoted c)
  else if c = ';' then s.endStatement.enter .plain
  else (s.keep c).enter .plain

/-- One character of the script. -/
def step (r : Rules) (s : Scan) (c : Char) : Scan :=
  match s.mode with
  | .plain => s.stepPlain r c
  | .hyphen =>
    if c = '-' then s.enter .lineComment else (s.keep '-').stepPlain r c
  | .slash =>
    if c = '*' then s.leaveSpace.enter (.blockComment false) else (s.keep '/').stepPlain r c
  | .quoted q =>
    if c = '\\' ∧ q = '\x27' ∧ r.backslashEscapes then (s.keep c).enter (.escaped q)
    else if c = q then (s.keep c).enter .plain
    else s.keep c
  | .escaped q => (s.keep c).enter (.quoted q)
  | .lineComment =>
    if c = '\n' then (s.keep c).enter .plain else s
  | .blockComment star =>
    if c = '/' ∧ star then s.enter .plain else (s.skip c).enter (.blockComment (c == '*'))
  | .tag word =>
    if c = '$' then (s.keep c).enter (.body ('$' :: word ++ ['$']) [])
    else if Text.isWord c then (s.keep c).enter (.tag (c :: word))
    else s.stepPlain r c
  | .body tag read =>
    let read := c :: read
    if tag.isPrefixOf read then (s.keep c).enter .plain else (s.keep c).enter (.body tag read)

/-- The end of the script ends the last statement; a lone hyphen or slash belongs to it. -/
def finish (s : Scan) : List Fragment :=
  let s := match s.mode with
    | .hyphen => s.keep '-'
    | .slash => s.keep '/'
    | _ => s
  s.endStatement.ended.reverse

end Scan

/-- The statements of a script. -/
def split (dialect : Option String) (script : String) : List Fragment :=
  (script.toList.foldl (Scan.step (Rules.ofDialect dialect)) Scan.initial).finish

end DumpSummary.Script
