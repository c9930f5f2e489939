import DumpSummary.Text.Upper

/-!
# Tokens of SQL text

## Contents

* `StringKind`: the flavours of string literal;
* `Token`: the tokens;
* `Token.key?`: the capital form by which keywords are told.
-/

namespace DumpSummary.Sql

/-- The flavours of string literal. -/
inductive StringKind
  /-- A character string. -/
  | plain
  /-- A string of the national character set. -/
  | national
  /-- A string of hexadecimal digits. -/
  | hexadecimal
  /-- A number in hexadecimal digits. -/
  | hexadecimalNumber
  /-- A string of binary digits. -/
  | binary
  /-- A string whose backslashes are kept for the server to read. -/
  | escaped
  deriving DecidableEq, Repr, Inhabited

/-- A token. -/
inductive Token
  /-- A bare word, name or keyword: as written and in capitals. -/
  | word (text key : String)
  /-- Several words that make one keyword, in capitals. -/
  | phrase (key : String)
  /-- A name in quotes, without them. -/
  | name (text : String)
  /-- A string literal of a flavour, its text after escapes are resolved. -/
  | string (kind : StringKind) (text : String)
  /-- A number as written. -/
  | number (text : String)
  /-- An operator or a punctuation mark. -/
  | sign (text : String)
  /-- A quote character that quotes nothing in the dialect; it can stand for a name. -/
  | stray (quote : Char)
  deriving DecidableEq, Repr, Inhabited

/-- The capital form of a keyword, or the sign. -/
def Token.key? : Token → Option String
  | .word _ key => some key
  | .phrase key => some key
  | .sign text => some text
  | _ => none

/-- The token for a bare word. -/
def Token.ofWord (cs : List Char) : Token :=
  let text := String.ofList cs
  .word text (Text.upper text)

end DumpSummary.Sql
