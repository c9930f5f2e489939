import DumpSummary.Yaml.Cursor

/-!
# The text of scalars

A scalar is written in quotes, as a block of lines behind a mark, or plainly.  In each form line breaks inside are
folded: a single one becomes a space, and of several the first is dropped.

## Contents

* `Yaml.quotedScalar`: a text in single or double quotes;
* `Yaml.blockScalar`: a block of lines, kept or folded;
* `Yaml.plainScalar`: a text without marks.
-/

namespace DumpSummary.Yaml

/-- Fails with a token fault. -/
def tokenFault {α : Type} (headline : String) : Except Fault α :=
  .error ⟨.token, headline⟩

/-- The characters that a line break between two texts stands for, given the breaks that follow it. -/
def folded (first : Char) (more : List Char) : List Char :=
  if first != '\n' then first :: more
  else if more.isEmpty then [' '] else more

/-! ## Quotes -/

/-- The character that a letter after a backslash stands for. -/
def escaped? (c : Char) : Option Char :=
  [('0', '\x00'), ('a', '\x07'), ('b', '\x08'), ('t', '\t'), ('\t', '\t'), ('n', '\n'), ('v', '\x0b'), ('f', '\x0c'),
    ('r', '\r'), ('e', '\x1b'), (' ', ' '), ('\x22', '\x22'), ('\\', '\\'), ('/', '/'), ('N', '\u0085'),
    ('_', '\u00a0'), ('L', '\u2028'), ('P', '\u2029')].lookup c

/-- How many digits follow a letter after a backslash that begins a character code. -/
def codeLength? (c : Char) : Option Nat :=
  [('x', 2), ('u', 4), ('U', 8)].lookup c

/-- The value of a hexadecimal digit. -/
def hexValue (c : Char) : Nat :=
  if c.isDigit then c.toNat - 48 else if c.toNat < 97 then c.toNat - 55 else c.toNat - 87

/-- The number of hexadecimal digits. -/
def hexNumber (cs : List Char) : Nat :=
  cs.foldl (fun n c => 16 * n + hexValue c) 0

/-- The character of a code. -/
def codeChar (n : Nat) : Except Fault Char :=
  if n < 0x110000 then .ok (if 0xd800 ≤ n && n < 0xe000 then '\ufffd' else Char.ofNat n)
  else if n < 0x80000000 then .error ⟨.value, "chr() arg not in range(0x110000)"⟩
  else .error ⟨.overflow, "Python int too large to convert to C int"⟩

/-- The empty lines ahead, each with its break; a document mark may not stand among them. -/
def quotedBreaks : Nat → Cursor → Except Fault (List Char × Cursor)
  | 0, c => .ok ([], c)
  | fuel + 1, c =>
    if c.atDocumentMark then tokenFault "while scanning a quoted scalar"
    else
      let c := c.skip fun a => a == ' ' || a == '\t'
      match c.lineBreak? with
      | none => .ok ([], c)
      | some (b, c) => (quotedBreaks fuel c).map fun r => (b :: r.1, r.2)

/-- The white space ahead, inside quotes. -/
def quotedSpaces (c : Cursor) : Except Fault (List Char × Cursor) :=
  let (spaces, c) := c.take fun a => a == ' ' || a == '\t'
  if c.atEnd then tokenFault "while scanning a quoted scalar"
  else match c.lineBreak? with
    | none => .ok (spaces, c)
    | some (b, c) => (quotedBreaks (c.rest.length + 1) c).map fun r => (folded b r.1, r.2)

/-- What a backslash inside double quotes begins; the cursor stands behind it. -/
def escape (c : Cursor) : Except Fault (List Char × Cursor) :=
  match escaped? c.peek with
  | some a => .ok ([a], c.next)
  | none =>
    match codeLength? c.peek with
    | some n =>
      let digits := c.next.rest.take n
      if digits.length == n && digits.all isHexDigit then
        (codeChar (hexNumber digits)).map fun a => ([a], c.next.advance n)
      else tokenFault "while scanning a double-quoted scalar"
    | none =>
      match c.lineBreak? with
      | some (_, c) => quotedBreaks (c.rest.length + 1) c
      | none => tokenFault "while scanning a double-quoted scalar"

/-- The inside of quotes up to the closing one; `fuel` bounds its length. -/
def quotedInside (double : Bool) : Nat → Cursor → Except Fault (List Char × Cursor)
  | 0, _ => tokenFault "while scanning a quoted scalar"
  | fuel + 1, c =>
    let a := c.peek
    if !double && a == '\x27' && c.peekAt 1 == '\x27' then
      (quotedInside double fuel (c.advance 2)).map fun r => ('\x27' :: r.1, r.2)
    else if a == (if double then '\x22' else '\x27') then .ok ([], c.next)
    else if double && a == '\\' then
      match escape c.next with
      | .error e => .error e
      | .ok (cs, c) => (quotedInside double fuel c).map fun r => (cs ++ r.1, r.2)
    else if isBlankOrEnd a then
      match quotedSpaces c with
      | .error e => .error e
      | .ok (cs, c) => (quotedInside double fuel c).map fun r => (cs ++ r.1, r.2)
    else (quotedInside double fuel c.next).map fun r => (a :: r.1, r.2)

/-- A scalar in quotes; the cursor stands at the opening one. -/
def quotedScalar (double : Bool) (c : Cursor) : Except Fault (List Char × Cursor) :=
  quotedInside double (c.rest.length + 1) c.next

/-! ## Blocks -/

/-- What becomes of the line breaks at the end of a block. -/
inductive Chomping
  /-- One is kept. -/
  | clip
  /-- All are kept. -/
  | keep
  /-- All are dropped. -/
  | strip
  deriving DecidableEq, Repr

/-- The sign of a treatment of final line breaks. -/
def chomping? (c : Char) : Option Chomping :=
  if c == '+' then some .keep else if c == '-' then some .strip else none

/-- The digit of an indentation ahead; zero is refused. -/
def blockIncrement (c : Cursor) : Except Fault (Option Nat × Cursor) :=
  if c.peek.isDigit then
    if c.peek == '0' then tokenFault "while scanning a block scalar"
    else .ok (some (c.peek.toNat - 48), c.next)
  else .ok (none, c)

/-- The signs behind the mark of a block: the treatment of final line breaks and the indentation, in either order. -/
def blockHeader (c : Cursor) : Except Fault (Chomping × Option Nat × Cursor) :=
  let done : Except Fault (Chomping × Option Nat × Cursor) :=
    match chomping? c.peek with
    | some k => (blockIncrement c.next).map fun r => (k, r.1, r.2)
    | none =>
      match blockIncrement c with
      | .error e => .error e
      | .ok (none, c) => .ok (.clip, none, c)
      | .ok (some n, c) =>
        match chomping? c.peek with
        | some k => .ok (k, some n, c.next)
        | none => .ok (.clip, some n, c)
  match done with
  | .error e => .error e
  | .ok (k, n, c) => if isSpaceOrEnd c.peek then .ok (k, n, c) else tokenFault "while scanning a block scalar"

/-- The rest of the line of a block's mark: spaces and a comment. -/
def blockLineRest (c : Cursor) : Except Fault Cursor :=
  let c := (c.skip (· == ' ')).skipComment
  if isBreakOrEnd c.peek then .ok ((c.lineBreak?.map (·.2)).getD c)
  else tokenFault "while scanning a block scalar"

/-- The empty lines ahead of a block without a given indentation: their breaks, the greatest column reached, and the
place after them. -/
def blockIndentation : Nat → Nat → Cursor → List Char × Nat × Cursor
  | 0, widest, c => ([], widest, c)
  | fuel + 1, widest, c =>
    if c.peek == ' ' then blockIndentation fuel (max widest c.next.column) c.next
    else match c.lineBreak? with
      | none => ([], widest, c)
      | some (b, c) =>
        let (bs, widest, c) := blockIndentation fuel widest c
        (b :: bs, widest, c)

/-- The empty lines ahead in a block of an indentation: their breaks and the place after them. -/
def blockBreaks (indent : Nat) : Nat → Cursor → List Char × Cursor
  | 0, c => ([], c)
  | fuel + 1, c =>
    let c := c.skipSpacesTo indent
    match c.lineBreak? with
    | none => ([], c)
    | some (b, c) =>
      let (bs, c) := blockBreaks indent fuel c
      (b :: bs, c)

/-- The lines of a block, with the breaks between them: its text without the final breaks, the break of the last
line, the breaks after it, and the place after them. -/
def blockLines (fold : Bool) (indent : Nat) : Nat → List Char → Cursor → List Char × List Char × List Char × Cursor
  | 0, breaks, c => ([], [], breaks, c)
  | fuel + 1, breaks, c =>
    if c.column != indent || c.atEnd then ([], [], breaks, c)
    else
      let spaced := c.peek == ' ' || c.peek == '\t'
      let (line, c) := c.take fun a => !isBreakOrEnd a
      let (ending, c) := match c.lineBreak? with
        | some (b, c) => ([b], c)
        | none => ([], c)
      let (more, c) := blockBreaks indent (c.rest.length + 1) c
      if c.column == indent && !c.atEnd then
        let glue :=
          if fold && ending == ['\n'] && !spaced && !(c.peek == ' ' || c.peek == '\t') then
            (if more.isEmpty then [' '] else [])
          else ending
        let (text, last, final, c) := blockLines fold indent fuel more c
        (breaks ++ line ++ glue ++ text, last, final, c)
      else (breaks ++ line, ending, more, c)

/-- A block of lines inside an indentation; the cursor stands at its mark. -/
def blockScalar (fold : Bool) (outer : Int) (c : Cursor) : Except Fault (List Char × Cursor) :=
  match blockHeader c.next with
  | .error e => .error e
  | .ok (chomping, increment, c) =>
    match blockLineRest c with
    | .error e => .error e
    | .ok c =>
      let least := max 1 (outer + 1).toNat
      let fuel := c.rest.length + 1
      let (breaks, indent, c) := match increment with
        | none =>
          let (breaks, widest, c) := blockIndentation fuel 0 c
          (breaks, max least widest, c)
        | some n =>
          let indent := least + n - 1
          let (breaks, c) := blockBreaks indent fuel c
          (breaks, indent, c)
      let (text, last, final, c) := blockLines fold indent fuel breaks c
      let ending := match chomping with
        | .strip => []
        | .clip => last
        | .keep => last ++ final
      .ok (text ++ ending, c)

/-! ## Plain text -/

/-- Whether a plain text goes on: it ends before white space, before a colon that white space follows and, in
brackets, before the signs of their structure. -/
def goesOn (flow : Bool) : List Char → Bool
  | [] => false
  | a :: rest =>
    let b := rest.head?.getD endMark
    let flowSign (x : Char) : Bool := x == ',' || x == '[' || x == ']' || x == '\x7b' || x == '\x7d'
    !(isBlankOrEnd a || (a == ':' && (isBlankOrEnd b || (flow && flowSign b))) || (flow && (flowSign a || a == '?')))

/-- The length of the plain text ahead. -/
def plainLength (flow : Bool) : List Char → Nat
  | [] => 0
  | a :: rest => if goesOn flow (a :: rest) then plainLength flow rest + 1 else 0

/-- The empty lines ahead of a plain text that goes on, each with its break; `none` where a document mark ends it. -/
def plainBreaks : Nat → Cursor → Option (List Char) × Cursor
  | 0, c => (some [], c)
  | fuel + 1, c =>
    if c.atDocumentMark then (none, c)
    else
      let c := c.skip (· == ' ')
      match c.lineBreak? with
      | none => (some [], c)
      | some (b, c) =>
        let (bs, c) := plainBreaks fuel c
        (bs.map (b :: ·), c)

/-- The white space after a piece of plain text: what it stands for, whether it holds a line break, and the place
after it. -/
def plainSpaces (c : Cursor) : List Char × Bool × Cursor :=
  let (spaces, c) := c.take (· == ' ')
  match c.lineBreak? with
  | none => (spaces, false, c)
  | some (b, c) =>
    match plainBreaks (c.rest.length + 1) c with
    | (some bs, c) => (folded b bs, true, c)
    | (none, c) => ([], true, c)

/-- The pieces of a plain text with the white space between them: the text, whether the white space after it holds a
line break, and the place after that. -/
def plainPieces (flow : Bool) (indent : Int) : Nat → List Char → Bool → Cursor → List Char × Bool × Cursor
  | 0, _, broken, c => ([], broken, c)
  | fuel + 1, spaces, broken, c =>
    let n := plainLength flow c.rest
    if c.peek == '#' || n == 0 then ([], broken, c)
    else
      let piece := spaces ++ c.rest.take n
      let (spaces, broken, c) := plainSpaces (c.advance n)
      if spaces.isEmpty || c.peek == '#' || (!flow && c.column < indent) then (piece, broken, c)
      else
        let (text, broken, c) := plainPieces flow indent fuel spaces broken c
        (piece ++ text, broken, c)

/-- A plain scalar: its text, whether a line break follows it, and the place after the white space behind it. -/
def plainScalar (flow : Bool) (outer : Int) (c : Cursor) : List Char × Bool × Cursor :=
  plainPieces flow (outer + 1) (c.rest.length + 1) [] false c

end DumpSummary.Yaml
