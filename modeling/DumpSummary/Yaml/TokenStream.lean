import DumpSummary.Yaml.Property

/-!
# The tokens of a document, one after another

Tokens are read on demand.  A key of a mapping is known as such only when the colon behind it is met, so a token that
may begin a key is held back until that is decided; the key mark, and the mark of the mapping that it begins, are then
put before it.

## Contents

* `Yaml.KeyCandidate`: a place where a key may begin;
* `Yaml.TokenStream`: the tokens that are read and the state of the layout;
* `TokenStream.fetch`: reads on;
* `TokenStream.peek`, `TokenStream.pop`: the next token, and the stream without it.
-/

namespace DumpSummary.Yaml

/-- A token that may turn out to begin a key. -/
structure KeyCandidate where
  /-- How many tokens stand before it. -/
  number : Nat
  /-- Whether the layout leaves no other choice. -/
  required : Bool
  /-- Its place in the text. -/
  index : Nat
  /-- Its line. -/
  line : Nat
  /-- Its column. -/
  column : Nat
  deriving Repr

/-- The tokens of a document as far as they are read. -/
structure TokenStream where
  /-- The place that is reached. -/
  cursor : Cursor
  /-- Whether the end is reached. -/
  finished : Bool
  /-- The tokens that are read but not taken. -/
  tokens : List Token
  /-- How many tokens are taken. -/
  taken : Nat
  /-- How many brackets and braces are open. -/
  flow : Int
  /-- The column of the innermost block, -1 outside of all. -/
  indent : Int
  /-- The columns of the blocks around it. -/
  outer : List Int
  /-- Whether a key may begin at the place. -/
  keyAllowed : Bool
  /-- The candidates for keys by the number of open brackets. -/
  candidates : List (Int × KeyCandidate)
  deriving Repr

namespace TokenStream

/-- The stream of a text. -/
def start (cs : List Char) : TokenStream :=
  ⟨.start cs, false, [.streamStart], 0, 0, -1, [], true, []⟩

/-- Whether no bracket is open. -/
def inBlock (s : TokenStream) : Bool := s.flow == 0

/-- The stream with one more token. -/
def push (s : TokenStream) (t : Token) : TokenStream :=
  { s with tokens := s.tokens ++ [t] }

/-- The stream with a token before the candidate's. -/
def insertAt (s : TokenStream) (k : KeyCandidate) (t : Token) : TokenStream :=
  let n := k.number - s.taken
  { s with tokens := s.tokens.take n ++ t :: s.tokens.drop n }

/-- The headline about a key without its colon. -/
def lostKey {α : Type} : Except Fault α :=
  tokenFault "while scanning a simple key"

/-- Drops the candidates that can no longer become keys: a key stands on one line and is not long. -/
def dropStale (s : TokenStream) : Except Fault TokenStream :=
  let isStale (k : KeyCandidate) : Bool := k.line != s.cursor.line || s.cursor.index - k.index > 1024
  if s.candidates.any fun e => isStale e.2 && e.2.required then lostKey
  else .ok { s with candidates := s.candidates.filter fun e => !isStale e.2 }

/-- Drops the candidate of the open bracket. -/
def dropCandidate (s : TokenStream) : Except Fault TokenStream :=
  match s.candidates.lookup s.flow with
  | some k => if k.required then lostKey else .ok { s with candidates := s.candidates.filter (·.1 != s.flow) }
  | none => .ok s

/-- Makes the next token a candidate, where a key may begin. -/
def markCandidate (s : TokenStream) : Except Fault TokenStream :=
  if s.keyAllowed then
    match s.dropCandidate with
    | .error e => .error e
    | .ok s =>
      let c := s.cursor
      let k : KeyCandidate := ⟨s.taken + s.tokens.length, s.inBlock && s.indent == c.column, c.index, c.line, c.column⟩
      .ok { s with candidates := (s.flow, k) :: s.candidates }
  else .ok s

/-- Ends the blocks that stand right of a column; `blocks` bounds their number. -/
def closeBlocks (column : Int) : Nat → TokenStream → TokenStream
  | 0, s => s
  | blocks + 1, s =>
    if s.indent > column then
      match s.outer with
      | i :: outer => closeBlocks column blocks { s.push .blockEnd with indent := i, outer := outer }
      | [] => s
    else s

/-- Ends the blocks that stand right of a column, unless a bracket is open. -/
def unwind (column : Int) (s : TokenStream) : TokenStream :=
  if s.inBlock then closeBlocks column s.outer.length s else s

/-- Begins a block at a column, if that is right of the innermost block; tells whether it does. -/
def openBlock (column : Int) (s : TokenStream) : Bool × TokenStream :=
  if s.indent < column then (true, { s with indent := column, outer := s.indent :: s.outer }) else (false, s)

/-- The stream at another place. -/
def moveTo (s : TokenStream) (c : Cursor) : TokenStream :=
  { s with cursor := c }

/-- The stream after a token of one character. -/
def pushSign (s : TokenStream) (t : Token) : TokenStream :=
  (s.moveTo s.cursor.next).push t

/-! ## The single tokens -/

/-- The place of the next token, after spaces, comments and line breaks; outside brackets a key may begin after a line
break. -/
def skipToToken : Nat → TokenStream → TokenStream
  | 0, s => s
  | fuel + 1, s =>
    let c := (s.cursor.skip (· == ' ')).skipComment
    match c.lineBreak? with
    | none => s.moveTo c
    | some (_, c) => skipToToken fuel { s with cursor := c, keyAllowed := s.keyAllowed || s.inBlock }

/-- The end of the text. -/
def fetchEnd (s : TokenStream) : Except Fault TokenStream :=
  match (s.unwind (-1)).dropCandidate with
  | .error e => .error e
  | .ok s => .ok { s.push .streamEnd with keyAllowed := false, candidates := [], finished := true }

/-- A line of its own between documents: a directive or a mark. -/
def fetchLine (s : TokenStream) (read : Cursor → Except Fault (Token × Cursor)) : Except Fault TokenStream :=
  match (s.unwind (-1)).dropCandidate with
  | .error e => .error e
  | .ok s => (read s.cursor).map fun r => { (s.moveTo r.2).push r.1 with keyAllowed := false }

/-- An opening bracket or brace. -/
def fetchOpening (s : TokenStream) (t : Token) : Except Fault TokenStream :=
  s.markCandidate.map fun s => { s.pushSign t with flow := s.flow + 1, keyAllowed := true }

/-- A closing bracket or brace. -/
def fetchClosing (s : TokenStream) (t : Token) : Except Fault TokenStream :=
  s.dropCandidate.map fun s => { s.pushSign t with flow := s.flow - 1, keyAllowed := false }

/-- A comma. -/
def fetchComma (s : TokenStream) : Except Fault TokenStream :=
  s.dropCandidate.map fun s => { s.pushSign .flowEntry with keyAllowed := true }

/-- Begins a block for a sign, which must stand where a key may. -/
def blockForSign (s : TokenStream) (headline : String) (t : Token) : Except Fault TokenStream :=
  if !s.inBlock then .ok s
  else if !s.keyAllowed then tokenFault headline
  else
    let (opened, s) := s.openBlock s.cursor.column
    .ok (if opened then s.push t else s)

/-- The sign of a sequence item. -/
def fetchBlockEntry (s : TokenStream) : Except Fault TokenStream :=
  match s.blockForSign "sequence entries are not allowed here" .blockSequenceStart with
  | .error e => .error e
  | .ok s => (dropCandidate { s with keyAllowed := true }).map (pushSign · .blockEntry)

/-- The sign of a key. -/
def fetchKey (s : TokenStream) : Except Fault TokenStream :=
  match s.blockForSign "mapping keys are not allowed here" .blockMappingStart with
  | .error e => .error e
  | .ok s => (dropCandidate { s with keyAllowed := s.inBlock }).map (pushSign · .key)

/-- The sign of a value: the candidate of the bracket, if there is one, is the key. -/
def fetchValue (s : TokenStream) : Except Fault TokenStream :=
  match s.candidates.lookup s.flow with
  | some k =>
    let s := { s with candidates := s.candidates.filter (·.1 != s.flow) }
    let s := s.insertAt k .key
    let s :=
      if s.inBlock then
        let (opened, s) := s.openBlock k.column
        if opened then s.insertAt k .blockMappingStart else s
      else s
    .ok { s.pushSign .value with keyAllowed := false }
  | none =>
    match s.blockForSign "mapping values are not allowed here" .blockMappingStart with
    | .error e => .error e
    | .ok s => (dropCandidate { s with keyAllowed := s.inBlock }).map (pushSign · .value)

/-- A token that may begin a key. -/
def fetchKeyLike (s : TokenStream) (read : Cursor → Except Fault (Token × Cursor)) : Except Fault TokenStream :=
  match s.markCandidate with
  | .error e => .error e
  | .ok s => (read s.cursor).map fun r => { (s.moveTo r.2).push r.1 with keyAllowed := false }

/-- A block scalar. -/
def fetchBlockScalar (s : TokenStream) (fold : Bool) : Except Fault TokenStream :=
  match dropCandidate { s with keyAllowed := true } with
  | .error e => .error e
  | .ok s =>
    (blockScalar fold s.indent s.cursor).map fun r => (s.moveTo r.2).push (.scalar (String.ofList r.1) false)

/-- A plain scalar. -/
def fetchPlain (s : TokenStream) : Except Fault TokenStream :=
  s.markCandidate.map fun s =>
    let (text, broken, c) := plainScalar (!s.inBlock) s.indent s.cursor
    { (s.moveTo c).push (.scalar (String.ofList text) true) with keyAllowed := broken }

/-- Whether a plain scalar may begin at the place. -/
def atPlain (s : TokenStream) : Bool :=
  let a := s.cursor.peek
  let sign := a == '-' || a == '?' || a == ':' || a == ',' || a == '[' || a == ']' || a == '\x7b' || a == '\x7d'
    || a == '#' || a == '&' || a == '*' || a == '!' || a == '|' || a == '>' || a == '\x27' || a == '\x22' || a == '%'
    || a == '@' || a == '\x60'
  !(isBlankOrEnd a || sign)
    || (!isBlankOrEnd (s.cursor.peekAt 1) && (a == '-' || (s.inBlock && (a == '?' || a == ':'))))

/-- Reads the next token, where the place and the blocks are in order. -/
def fetchAt (s : TokenStream) : Except Fault TokenStream :=
  let c := s.cursor
  let a := c.peek
  let spaced := isBlankOrEnd (c.peekAt 1)
  let atMark := c.column == 0 && c.atDocumentMark
  if c.atEnd then s.fetchEnd
  else if a == '%' && c.column == 0 then s.fetchLine directiveToken
  else if a == '-' && atMark then s.fetchLine fun c => .ok (.documentStart, c.advance 3)
  else if a == '.' && atMark then s.fetchLine fun c => .ok (.documentEnd, c.advance 3)
  else if a == '[' then s.fetchOpening .flowSequenceStart
  else if a == '\x7b' then s.fetchOpening .flowMappingStart
  else if a == ']' then s.fetchClosing .flowSequenceEnd
  else if a == '\x7d' then s.fetchClosing .flowMappingEnd
  else if a == ',' then s.fetchComma
  else if a == '-' && spaced then s.fetchBlockEntry
  else if a == '?' && (!s.inBlock || spaced) then s.fetchKey
  else if a == ':' && (!s.inBlock || spaced) then s.fetchValue
  else if a == '*' then
    s.fetchKeyLike fun c => (nodeName "while scanning an alias" c).map fun r => (.alias r.1, r.2)
  else if a == '&' then
    s.fetchKeyLike fun c => (nodeName "while scanning an anchor" c).map fun r => (.anchor r.1, r.2)
  else if a == '!' then s.fetchKeyLike tagToken
  else if a == '|' && s.inBlock then s.fetchBlockScalar false
  else if a == '>' && s.inBlock then s.fetchBlockScalar true
  else if a == '\x27' || a == '\x22' then
    s.fetchKeyLike fun c =>
      (quotedScalar (a == '\x22') c).map fun r => (.scalar (String.ofList r.1) false, r.2)
  else if s.atPlain then s.fetchPlain
  else tokenFault "while scanning for the next token"

/-! ## Reading on demand -/

/-- Reads the next token and what comes with it.  A byte order mark at the very beginning is dropped. -/
def fetch (s : TokenStream) : Except Fault TokenStream :=
  let c := s.cursor
  let s := if c.index == 0 && c.peek == '\ufeff' then s.moveTo c.next else s
  match (skipToToken (s.cursor.rest.length + 1) s).dropStale with
  | .error e => .error e
  | .ok s => (s.unwind s.cursor.column).fetchAt

/-- Whether the next token is certain: it is read and is no candidate. -/
def isCertain (s : TokenStream) : Bool :=
  !s.tokens.isEmpty && s.candidates.all fun e => e.2.number != s.taken

/-- Reads on until the next token is certain; `fuel` bounds the number of tokens. -/
def settle : Nat → TokenStream → Except Fault TokenStream
  | 0, s => .ok s
  | fuel + 1, s =>
    if s.finished then .ok s
    else if s.tokens.isEmpty then
      match s.fetch with
      | .error e => .error e
      | .ok s => settle fuel s
    else
      match s.dropStale with
      | .error e => .error e
      | .ok s =>
        if s.isCertain then .ok s
        else match s.fetch with
          | .error e => .error e
          | .ok s => settle fuel s

/-- The stream with a certain next token, and that token. -/
def peek (s : TokenStream) : Except Fault (Token × TokenStream) :=
  (settle (s.cursor.rest.length + 2) s).map fun s => (s.tokens.head?.getD .streamEnd, s)

/-- The stream without its next token. -/
def pop (s : TokenStream) : TokenStream :=
  { s with tokens := s.tokens.drop 1, taken := s.taken + 1 }

end TokenStream
end DumpSummary.Yaml
