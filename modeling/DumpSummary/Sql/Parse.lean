import DumpSummary.Dialect.Basic
import DumpSummary.Sql.Token
import DumpSummary.Sql.Syntax
import DumpSummary.Text.Upper

/-!
# Parsers over tokens

A parser takes tokens off the head of a list.  It may find that what it looks for does not stand there, which is
the value `none` and takes nothing; or it may find that what has begun cannot be completed, which rejects the
statement.

## Contents

* `Rejection`: why a text is refused;
* `Parse`: parsers;
* `sign`, `word`, `words`: single tokens;
* `text`, `texts`: single tokens by what is written in them;
* `iterate`, `commaList`, `wrapped`: sequences;
* `identifier`: names.
-/

namespace DumpSummary.Sql

/-- Why the text of a statement is refused. -/
inductive Rejection
  /-- A quoted run or a comment has no end. -/
  | unterminated
  /-- The tokens form no statement. -/
  | malformed
  deriving DecidableEq, Repr

/-- A parser: it reads in a dialect, takes tokens off the head of a list and may reject. -/
abbrev Parse := ReaderT Dialect (StateT (List Token) (Except Rejection))

namespace Parse

/-! ## Looking at tokens -/

/-- Rejects the statement. -/
def reject : Parse α := throw .malformed

/-- The next token. -/
def next? : Parse (Option Token) := return (← get).head?

/-- The token after the next one. -/
def second? : Parse (Option Token) := return (← get)[1]?

/-- Whether no token is left. -/
def atEnd : Parse Bool := return (← get).isEmpty

/-- Takes the next token. -/
def skip : Parse Unit := modify List.tail

/-- Takes all tokens. -/
def skipAll : Parse Unit := set ([] : List Token)

/-- Takes the next token if the test gives a value for it. -/
def take? (test : Token → Option α) : Parse (Option α) := do
  match ← next? with
  | some t =>
    match test t with
    | some a => skip; return some a
    | none => return none
  | none => return none

/-- Whether the next token is that sign. -/
def peekSign (s : String) : Parse Bool :=
  return (← next?) == some (.sign s)

/-- Takes that sign. -/
def sign (s : String) : Parse Bool := do
  if ← peekSign s then skip; return true else return false

/-- Takes that sign or rejects. -/
def needSign (s : String) : Parse Unit := do
  if !(← sign s) then reject

/-- The keyword that a token is. -/
def keyword? : Token → Option String
  | .word _ key => some key
  | .phrase key => some key
  | _ => none

/-- The keyword that the next token is. -/
def peekKeyword? : Parse (Option String) :=
  return (← next?).bind keyword?

/-- Whether the next token is that keyword. -/
def peekWord (key : String) : Parse Bool :=
  return (← peekKeyword?) == some key

/-- Takes that keyword. -/
def word (key : String) : Parse Bool := do
  if ← peekWord key then skip; return true else return false

/-- Takes one of some keywords. -/
def oneOf (keys : List String) : Parse (Option String) :=
  take? fun t => (keyword? t).filter keys.contains

/-- Takes one of some signs. -/
def oneSign (signs : List String) : Parse (Option String) :=
  take? fun
    | .sign s => if signs.contains s then some s else none
    | _ => none

/-- Takes those keywords one after another, or nothing. -/
def words (keys : List String) : Parse Bool := do
  let tokens ← get
  let head := (tokens.take keys.length).map keyword?
  if head == keys.map some then set (tokens.drop keys.length); return true else return false

/-- Whether those keywords come next. -/
def peekWords (keys : List String) : Parse Bool := do
  return ((← get).take keys.length).map keyword? == keys.map some

/-- What is written in a token, in capitals: a word, or a name or a string without its quotes. -/
def written? : Token → Option String
  | .name text => some (Text.upper text)
  | .string .plain text => some (Text.upper text)
  | t => keyword? t

/-- What is written in a token that is no string. -/
def text? : Token → Option String
  | .string _ _ => none
  | t => written? t

/-- Takes a token in which that is written, be it a word or a name in quotes. -/
def text (key : String) : Parse Bool := do
  return (← take? fun t => (text? t).filter (· == key)).isSome

/-- Takes tokens in which those are written, one after another, or nothing. -/
def texts (keys : List String) : Parse Bool := do
  let tokens ← get
  if (tokens.take keys.length).map text? == keys.map some then set (tokens.drop keys.length); return true
  else return false

/-- Takes a token in which one of some words is written, be it a string. -/
def oneWritten (keys : List String) : Parse (Option String) :=
  take? fun t => (written? t).filter keys.contains

/-- The words that say that an object may be absent.  What begins like them is taken, whether or not they go on. -/
def ifExists : Parse Unit := do
  if ← text "IF" then
    let _ ← word "EXISTS"

/-- The words that say that an object may be there already, taken in the same way. -/
def ifNotExists : Parse Unit := do
  if ← text "IF" then
    if ← word "NOT" then
      let _ ← word "EXISTS"

/-! ## Alternatives and sequences -/

/-- Gives back the tokens that a parser took before it found nothing. -/
def restoring (p : Parse (Option α)) : Parse (Option α) := do
  let tokens ← get
  match ← p with
  | some a => return some a
  | none => set tokens; return none

/-- Finds nothing where a parser rejects. -/
def attempt (p : Parse (Option α)) : Parse (Option α) := do
  let tokens ← get
  try restoring p
  catch _ => set tokens; return none

/-- The first of two parsers that finds something. -/
def orElse (p q : Parse (Option α)) : Parse (Option α) := do
  match ← p with
  | some a => return some a
  | none => q

/-- The first of some parsers that finds something. -/
def firstOf : List (Parse (Option α)) → Parse (Option α)
  | [] => return none
  | p :: ps => orElse p (firstOf ps)

/-- What a parser finds; nothing rejects. -/
def need (p : Parse (Option α)) : Parse α := do
  match ← p with
  | some a => return a
  | none => reject

/-- Steps from a value until a step finds nothing, at most once for each of some tokens and once more. -/
def iterateLoop (step : α → Parse (Option α)) : List Token → α → Parse α
  | [], a => return (← step a).getD a
  | _ :: tokens, a => do
    match ← step a with
    | some b => iterateLoop step tokens b
    | none => return a

/-- Steps from a value until a step finds nothing.  A step that finds something takes a token, so the tokens that
are left bound the steps. -/
def iterate (step : α → Parse (Option α)) (a : α) : Parse α := do
  iterateLoop step (← get) a

/-- What a parser finds, again and again. -/
def many (p : Parse (Option α)) : Parse (List α) := do
  let found ← iterate (fun found => do return (← p).map (· :: found)) []
  return found.reverse

/-- Items with commas between them, and whether a comma was the last token taken.  An item may be missing. -/
def commaItems (p : Parse (Option α)) : Parse (List α × Bool) := do
  let first ← p
  let (found, comma) ← iterate (fun (found, _) => do
    if !(← sign ",") then return none
    match ← p with
    | some a => return some (a :: found, false)
    | none => return some (found, true)) (first.toList, false)
  return (found.reverse, comma)

/-- Items with commas between them; an item may be missing. -/
def commaList (p : Parse (Option α)) : Parse (List α) :=
  return (← commaItems p).1

/-- A parser inside parentheses, which have to be there. -/
def wrapped (p : Parse α) : Parse α := do
  needSign "("
  let a ← p
  needSign ")"
  return a

/-! ## Names -/

/-- The keywords that are never a name. -/
def reserved : List String :=
  ["ALTER", "AND", "AS", "BETWEEN", "CREATE", "CROSS", "DISTINCT", "DROP", "ELSE", "EXCEPT", "FETCH", "FOR", "FROM",
    "GRANT", "HAVING", "ILIKE", "IN", "INNER", "INSERT", "INTERSECT", "INTO", "JOIN", "LATERAL", "LIKE", "NOT",
    "NULL", "ON", "OR", "OUTER", "QUALIFY", "REGEXP", "RETURNING", "REVOKE", "RLIKE", "ROLLBACK", "SELECT",
    "STRAIGHT_JOIN", "TABLESAMPLE", "THEN", "UNION", "USING", "VALUES", "WHEN", "WHERE", "WITH", "XOR"]

/-- The keywords that are a name, but not one given to a relation. -/
def joinWords : List String :=
  ["ANTI", "ASOF", "FULL", "LEFT", "LOCK", "NATURAL", "RIGHT", "SEMI", "WINDOW"]

/-- A token as a name: a quoted name, a bare word that is not reserved, or a stray quote. -/
def asName : Token → Option Ident
  | .name text => some ⟨text, true⟩
  | .word text key => if reserved.contains key then none else some ⟨text, false⟩
  | .stray quote => some ⟨String.singleton quote, false⟩
  | _ => none

/-- A token as a name where any token may be one: all but the marks and the word that begins a query. -/
def asAnyName : Token → Option Ident
  | .name text => some ⟨text, true⟩
  | .word text key => if key = "SELECT" then none else some ⟨text, false⟩
  | .phrase key => some ⟨key, false⟩
  | .string _ text => some ⟨text, true⟩
  | .number text => some ⟨text, false⟩
  | .sign text => if text.length = 1 then none else some ⟨text, false⟩
  | .stray _ => none

/-- A name.  In SQL Server number signs before a name make it the name of a temporary table. -/
def identifier : Parse (Option Ident) := restoring do
  if (← read) = .sqlServer then
    if ← sign "#" then
      let _ ← sign "#"
  take? asName

/-- A name, where any token may be one. -/
def anyIdentifier : Parse (Option Ident) := take? asAnyName

/-- A string as a name. -/
def stringName : Parse (Option Ident) :=
  take? fun
    | .string .plain text => some ⟨text, true⟩
    | _ => none

/-- A bare word, keyword or not. -/
def bareWord : Parse (Option String) :=
  take? fun
    | .word _ key => some key
    | _ => none

/-- A string. -/
def stringText : Parse (Option String) :=
  take? fun
    | .string .plain text => some text
    | _ => none

/-- A number. -/
def numberText : Parse (Option String) :=
  take? fun
    | .number text => some text
    | _ => none

end Parse
end DumpSummary.Sql
