import DumpSummary.Yaml.Scalar
import DumpSummary.Yaml.Token
import DumpSummary.Text.Utf8

/-!
# Names, tags and directives

What stands before a node or a document: the name of a node, its tag, and the lines that begin with a percent sign.

## Contents

* `Yaml.nodeName`: the name behind `&` or `*`;
* `Yaml.tagToken`: a tag;
* `Yaml.directiveToken`: a directive.
-/

namespace DumpSummary.Yaml

/-- The name behind the sign of an anchor or an alias; the cursor stands at the sign. -/
def nodeName (headline : String) (c : Cursor) : Except Fault (String × Cursor) :=
  let (name, c) := c.next.take isNameChar
  let ends (a : Char) : Bool :=
    isBlankOrEnd a || a == '?' || a == ':' || a == ',' || a == ']' || a == '\x7d' || a == '%' || a == '@' || a == '\x60'
  if name.isEmpty || !ends c.peek then tokenFault headline
  else .ok (String.ofList name, c)

/-! ## Tags -/

/-- The short form at the beginning of a tag: an exclamation mark, or a name between two. -/
def tagHandle (headline : String) (c : Cursor) : Except Fault (String × Cursor) :=
  if c.peek != '!' then tokenFault headline
  else if c.peekAt 1 == ' ' then .ok ("!", c.next)
  else
    let (name, c) := c.next.take isNameChar
    if c.peek != '!' then tokenFault headline
    else .ok (String.ofList ('!' :: name ++ ['!']), c.next)

/-- The signs of a tag besides letters, digits and escapes. -/
def tagSigns : List Char :=
  ['-', ';', '/', '?', ':', '@', '&', '=', '+', '$', ',', '_', '.', '!', '~', '*', '\x27', '(', ')', '[', ']']

/-- The bytes of the escapes ahead, each a percent sign and two hexadecimal digits. -/
def tagEscapes (headline : String) : Nat → Cursor → Except Fault (Bytes × Cursor)
  | 0, c => .ok ([], c)
  | fuel + 1, c =>
    if c.peek != '%' then .ok ([], c)
    else if isHexDigit (c.peekAt 1) && isHexDigit (c.peekAt 2) then
      let b := UInt8.ofNat (hexNumber [c.peekAt 1, c.peekAt 2])
      (tagEscapes headline fuel (c.advance 3)).map fun r => (b :: r.1, r.2)
    else tokenFault headline

/-- The characters of a tag ahead; a run of escapes is UTF-8. -/
def tagChars (headline : String) : Nat → Cursor → Except Fault (List Char × Cursor)
  | 0, c => .ok ([], c)
  | fuel + 1, c =>
    let a := c.peek
    if a == '%' then
      match tagEscapes headline (c.rest.length + 1) c with
      | .error e => .error e
      | .ok (bytes, c) =>
        match Text.Utf8.decode 0 bytes with
        | .error _ => tokenFault headline
        | .ok cs => (tagChars headline fuel c).map fun r => (cs ++ r.1, r.2)
    else if a.isAlphanum || tagSigns.contains a then
      (tagChars headline fuel c.next).map fun r => (a :: r.1, r.2)
    else .ok ([], c)

/-- The text of a tag after its short form, which is not empty. -/
def tagText (name : String) (c : Cursor) : Except Fault (String × Cursor) :=
  match tagChars ("while scanning a " ++ name) (c.rest.length + 1) c with
  | .error e => .error e
  | .ok (cs, rest) =>
    if rest.index == c.index then tokenFault ("while parsing a " ++ name) else .ok (String.ofList cs, rest)

/-- Whether the text after the first exclamation mark holds another one before it ends. -/
def namesHandle : List Char → Bool
  | [] => false
  | a :: rest => if isSpaceOrEnd a then false else a == '!' || namesHandle rest

/-- A tag; the cursor stands at its exclamation mark. -/
def tagToken (c : Cursor) : Except Fault (Token × Cursor) :=
  let read : Except Fault (Token × Cursor) :=
    if c.peekAt 1 == '<' then
      match tagText "tag" (c.advance 2) with
      | .error e => .error e
      | .ok (text, c) => if c.peek == '>' then .ok (.tag none text, c.next) else tokenFault "while parsing a tag"
    else if isBlankOrEnd (c.peekAt 1) then .ok (.tag none "!", c.next)
    else
      let handle := if namesHandle (c.rest.drop 1) then tagHandle "while scanning a tag" c else .ok ("!", c.next)
      match handle with
      | .error e => .error e
      | .ok (handle, c) => (tagText "tag" c).map fun r => (.tag (some handle) r.1, r.2)
  match read with
  | .error e => .error e
  | .ok (t, c) => if isSpaceOrEnd c.peek then .ok (t, c) else tokenFault "while scanning a tag"

/-! ## Directives -/

/-- A fault inside a directive. -/
def directiveFault {α : Type} : Except Fault α :=
  tokenFault "while scanning a directive"

/-- A number of a version. -/
def versionNumber (c : Cursor) : Except Fault (Nat × Cursor) :=
  let (digits, c) := c.take Char.isDigit
  if digits.isEmpty then directiveFault
  else .ok (digits.foldl (fun n d => 10 * n + (d.toNat - 48)) 0, c)

/-- The version that a directive gives. -/
def versionDirective (c : Cursor) : Except Fault (Directive × Cursor) :=
  match versionNumber (c.skip (· == ' ')) with
  | .error e => .error e
  | .ok (major, c) =>
    if c.peek != '.' then directiveFault
    else match versionNumber c.next with
      | .error e => .error e
      | .ok (minor, c) => if isSpaceOrEnd c.peek then .ok (.version major minor, c) else directiveFault

/-- The short form that a directive introduces. -/
def handleDirective (c : Cursor) : Except Fault (Directive × Cursor) :=
  match tagHandle "while scanning a directive" (c.skip (· == ' ')) with
  | .error e => .error e
  | .ok (name, c) =>
    if c.peek != ' ' then directiveFault
    else match tagText "directive" (c.skip (· == ' ')) with
      | .error e => .error e
      | .ok (expansion, c) => if isSpaceOrEnd c.peek then .ok (.handle name expansion, c) else directiveFault

/-- A directive with its line; the cursor stands at its percent sign. -/
def directiveToken (c : Cursor) : Except Fault (Token × Cursor) :=
  let (name, c) := c.next.take isNameChar
  if name.isEmpty || !isSpaceOrEnd c.peek then directiveFault
  else
    let read : Except Fault (Directive × Cursor) :=
      if String.ofList name == "YAML" then versionDirective c
      else if String.ofList name == "TAG" then handleDirective c
      else .ok (.other, c.skip fun a => !isBreakOrEnd a)
    match read with
    | .error e => .error e
    | .ok (d, c) =>
      let c := (c.skip (· == ' ')).skipComment
      if isBreakOrEnd c.peek then .ok (.directive d, (c.lineBreak?.map (·.2)).getD c) else directiveFault

end DumpSummary.Yaml
