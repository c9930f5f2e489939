import DumpSummary.Dialect.Basic
import DumpSummary.Sql.Syntax

/-!
# Writing expressions and types

The text of an expression or a type in a dialect: keywords in capitals, one space around operators, a comma and a
space between items, names and strings quoted as the dialect quotes them.

## Contents

* `Ident.render`, `renderString`: names and strings;
* `TypeKind.spelling`: the name of a built-in type in a dialect;
* `Expr.render`, `DataType.render`: expressions and types.
-/

namespace DumpSummary.Sql

/-! ## Names and strings -/

/-- A name between quotes; the closing quote is doubled inside. -/
def quoteName (opening close : Char) (s : String) : String :=
  String.ofList (opening :: s.toList.flatMap (fun c => if c = close then [c, c] else [c]) ++ [close])

/-- A name: quoted as it was, in the dialect's quotes. -/
def Ident.render (d : Dialect) (i : Ident) : String :=
  if i.quoted then
    match d with
    | .mysql => quoteName '\x60' '\x60' i.text
    | .sqlServer => quoteName '[' ']' i.text
    | _ => quoteName '\x22' '\x22' i.text
  else i.text

/-- A dotted name. -/
def renderPath (d : Dialect) (path : List Ident) : String :=
  String.intercalate "." (path.map (Ident.render d))

/-- A character inside a string.  A quote is doubled; MySQL also writes the controls that have an escape, and the
backslash, as escapes. -/
def stringChar (d : Dialect) (c : Char) : List Char :=
  if c = '\x27' then [c, c]
  else if d = .mysql then
    if c = '\\' then ['\\', '\\']
    else if c = '\n' then ['\\', 'n']
    else if c = '\t' then ['\\', 't']
    else if c = '\r' then ['\\', 'r']
    else if c = '\x00' then ['\\', '0']
    else if c = '\x08' then ['\\', 'b']
    else if c = '\x1a' then ['\\', 'Z']
    else [c]
  else [c]

/-- A string between quotes. -/
def renderQuoted (d : Dialect) (s : String) : String :=
  String.ofList ('\x27' :: s.toList.flatMap (stringChar d) ++ ['\x27'])

/-- The number that hexadecimal digits write. -/
def hexadecimalValue (s : String) : Nat :=
  s.toList.foldl (fun n c =>
    16 * n + (if c.isDigit then c.toNat - 48 else if 'a' ≤ c then c.toNat - 87 else c.toNat - 55)) 0

/-- A string literal of a flavour. -/
def renderString (d : Dialect) : StringKind → String → String
  | .plain, s => renderQuoted d s
  | .national, s => "N" ++ renderQuoted d s
  | .hexadecimal, s => "x'" ++ s ++ "'"
  | .hexadecimalNumber, s =>
    match d with
    | .sqlServer => "0x" ++ s
    | .sqlite => Nat.repr (hexadecimalValue s)
    | _ => "x'" ++ s ++ "'"
  | .binary, s => "b'" ++ s ++ "'"
  | .escaped, s => "e'" ++ s ++ "'"

/-! ## The names of types -/

/-- A type without the negative numbers. -/
def unsignedSpelling (d : Dialect) (name : String) : String :=
  match d with
  | .mysql => name ++ " UNSIGNED"
  | .sqlServer => if name = "TINYINT" then "TINYINT" else "U" ++ name
  | _ => "U" ++ name

/-- The name of a built-in type in a dialect; `bare` when it has no parameters.  Some names depend on that: MySQL
has no text with an upper bound but no length, and PostgreSQL no precision for its named float types. -/
def TypeKind.spelling (d : Dialect) (bare : Bool) : TypeKind → String
  | .tinyInt => match d with
    | .postgres | .oracle => "SMALLINT"
    | .sqlite => "INTEGER"
    | _ => "TINYINT"
  | .smallInt => match d with
    | .sqlite => "INTEGER"
    | _ => "SMALLINT"
  | .int => match d with
    | .sqlite | .sqlServer => "INTEGER"
    | _ => "INT"
  | .bigInt => match d with
    | .sqlite => "INTEGER"
    | .oracle => "INT"
    | _ => "BIGINT"
  | .unsigned name => unsignedSpelling d name
  | .float => match d with
    | .postgres => if bare then "REAL" else "FLOAT"
    | .sqlite => "REAL"
    | _ => "FLOAT"
  | .double => match d with
    | .postgres => if bare then "DOUBLE PRECISION" else "FLOAT"
    | .oracle => "DOUBLE PRECISION"
    | .sqlite => "REAL"
    | .sqlServer => "FLOAT"
    | _ => "DOUBLE"
  | .decimal => match d with
    | .sqlite => "REAL"
    | .sqlServer => "NUMERIC"
    | .oracle => "NUMBER"
    | _ => "DECIMAL"
  | .boolean => match d with
    | .sqlite => "INTEGER"
    | .sqlServer => "BIT"
    | _ => "BOOLEAN"
  | .char => match d with
    | .sqlite => "TEXT"
    | _ => "CHAR"
  | .nchar => match d with
    | .sqlite => "TEXT"
    | .mysql | .postgres => "CHAR"
    | _ => "NCHAR"
  | .varchar => match d with
    | .sqlite => "TEXT"
    | .oracle => "VARCHAR2"
    | .mysql => if bare then "TEXT" else "VARCHAR"
    | _ => "VARCHAR"
  | .nvarchar => match d with
    | .sqlite => "TEXT"
    | .oracle => "NVARCHAR2"
    | .mysql | .postgres => "VARCHAR"
    | _ => "NVARCHAR"
  | .text => match d with
    | .oracle => "CLOB"
    | .sqlServer => "VARCHAR(MAX)"
    | _ => "TEXT"
  | .ntext => match d with
    | .sqlServer => "VARCHAR(MAX)"
    | _ => "NTEXT"
  | .sizedText name => match d with
    | .mysql | .common => name
    | _ => "TEXT"
  | .binary => match d with
    | .postgres => "BYTEA"
    | .sqlite | .oracle => "BLOB"
    | _ => "BINARY"
  | .varbinary => match d with
    | .postgres => "BYTEA"
    | .sqlite | .oracle => "BLOB"
    | _ => "VARBINARY"
  | .sizedBlob name => match d with
    | .mysql | .common => name
    | _ => "BLOB"
  | .timeWithZone => match d with
    | .oracle => "TIME WITH TIME ZONE"
    | _ => "TIMETZ"
  | .dateTime => match d with
    | .postgres => "TIMESTAMP"
    | _ => "DATETIME"
  | .timestamp => "TIMESTAMP"
  | .timestampWithZone => match d with
    | .mysql => "TIMESTAMP"
    | .sqlServer => "DATETIMEOFFSET"
    | .oracle => "TIMESTAMP WITH TIME ZONE"
    | _ => "TIMESTAMPTZ"
  | .timestampWithLocalZone => match d with
    | .mysql => "TIMESTAMP"
    | _ => "TIMESTAMPLTZ"
  | .rowVersion => "ROWVERSION"
  | .uuid => match d with
    | .sqlServer => "UNIQUEIDENTIFIER"
    | _ => "UUID"
  | .enum => "ENUM"
  | .plain name => name

/-- The name of a type as the target of a conversion: MySQL converts to families of types. -/
def TypeKind.castSpelling? (d : Dialect) : TypeKind → Option String
  | k =>
    if d = .mysql then
      match k with
      | .tinyInt | .smallInt | .int | .bigInt | .boolean => some "SIGNED"
      | .plain "MEDIUMINT" => some "SIGNED"
      | .unsigned _ => some "UNSIGNED"
      | .varchar | .nvarchar | .text | .sizedText _ | .nchar => some "CHAR"
      | .timestamp | .timestampWithZone | .timestampWithLocalZone => some "DATETIME"
      | _ => none
    else none

/-! ## Expressions and types -/

/-- Whether the operator compares, so that SQL Server writes a truth value next to it as a bit. -/
def Operator.takesBits (op : Operator) : Bool :=
  op.text = "=" || op.text = "<>" || op.text = "IS"

/-- A truth value; SQL Server has none and writes a comparison. -/
def renderBoolean (d : Dialect) (b : Bool) : String :=
  match d with
  | .sqlServer => if b then "(1 = 1)" else "(1 = 0)"
  | _ => if b then "TRUE" else "FALSE"

/-- An operand of a comparison that was rendered before; a truth value becomes a bit in SQL Server. -/
def asBit (d : Dialect) (e : Expr) (text : String) : String :=
  match d, e with
  | .sqlServer, .boolean b => if b then "1" else "0"
  | _, _ => text

mutual

/-- The text of an expression. -/
def Expr.render (d : Dialect) : Expr → String
  | .column path => renderPath d path
  | .star [] => "*"
  | .star (i :: path) => renderPath d (i :: path) ++ ".*"
  | .number text => text
  | .string kind text => renderString d kind text
  | .introduced charset value => charset ++ " " ++ value.render d
  | .word _ text => text
  | .boolean b => renderBoolean d b
  | .unary op e =>
    let text := e.render d
    if text.startsWith "-" && op.text = "-" then op.text ++ " " ++ text else op.text ++ text
  | .negation e =>
    match d, e with
    | .postgres, .binary ⟨"IS", _⟩ l r => l.render d ++ " IS NOT " ++ r.render d
    | _, e => "NOT " ++ e.render d
  | .binary op l r =>
    let left := l.render d
    let right := r.render d
    if op.text = "%" && d = .oracle then "MOD(" ++ left ++ ", " ++ right ++ ")"
    else if op.takesBits then asBit d l left ++ " " ++ op.text ++ " " ++ asBit d r right
    else left ++ " " ++ op.text ++ " " ++ right
  | .between e low high => e.render d ++ " BETWEEN " ++ low.render d ++ " AND " ++ high.render d
  | .membership e items =>
    match items with
    | [.subquery q] => e.render d ++ " IN (" ++ q.render d ++ ")"
    | items => e.render d ++ " IN (" ++ String.intercalate ", " (renderList d items) ++ ")"
  | .call _ name args => name.render d ++ "(" ++ String.intercalate ", " (renderList d args) ++ ")"
  | .cast function e type => function ++ "(" ++ e.render d ++ " AS " ++ type.renderCast d ++ ")"
  | .paren e => "(" ++ e.render d ++ ")"
  | .tuple items => "(" ++ String.intercalate ", " (renderList d items) ++ ")"
  | .array items =>
    match d with
    | .postgres => "ARRAY[" ++ String.intercalate ", " (renderList d items) ++ "]"
    | _ => "ARRAY(" ++ String.intercalate ", " (renderList d items) ++ ")"
  | .index e subscripts => e.render d ++ "[" ++ String.intercalate ", " (renderList d subscripts) ++ "]"
  | .alias e name => e.render d ++ " AS " ++ name.render d
  | .phrase _ parts => String.intercalate " " (renderList d parts)
  | .clause keyword items =>
    if items.isEmpty then keyword else keyword ++ " " ++ String.intercalate ", " (renderList d items)
  | .query _ clauses => String.intercalate " " (renderList d clauses)
  | .subquery e => "(" ++ e.render d ++ ")"

/-- The texts of some expressions. -/
def renderList (d : Dialect) : List Expr → List String
  | [] => []
  | e :: es => e.render d :: renderList d es

/-- The text of a type. -/
def DataType.render (d : Dialect) : DataType → String
  | .builtin kind params =>
    let name := kind.spelling d params.isEmpty
    if params.isEmpty then name
    else
      let inner := "(" ++ String.intercalate ", " (renderList d params) ++ ")"
      match kind, d with
      | .enum, .postgres => name ++ " " ++ inner
      | .timestampWithZone, .oracle => "TIMESTAMP" ++ inner ++ " WITH TIME ZONE"
      | .timeWithZone, .oracle => "TIME" ++ inner ++ " WITH TIME ZONE"
      | .unsigned base, .mysql => base ++ inner ++ " UNSIGNED"
      | _, _ => name ++ inner
  | .array element size =>
    let extent := String.intercalate ", " (renderList d size)
    match d with
    | .postgres => element.render d ++ "[" ++ extent ++ "]"
    | _ => "ARRAY<" ++ element.render d ++ ">" ++ if size.isEmpty then "" else "[" ++ extent ++ "]"
  | .nested name inner => name ++ "<" ++ String.intercalate ", " (renderTypes d inner) ++ ">"
  | .field name type => name.render d ++ " " ++ type.render d
  | .userDefined path params =>
    let name := match d with
      | .postgres => renderPath d path
      | _ => String.intercalate "." (path.map Ident.text)
    if params.isEmpty then name else name ++ "(" ++ String.intercalate ", " (renderList d params) ++ ")"
  | .interval unit => if unit = "" then "INTERVAL" else "INTERVAL " ++ unit

/-- The text of a type as the target of a conversion. -/
def DataType.renderCast (d : Dialect) : DataType → String
  | .builtin kind params =>
    match kind.castSpelling? d with
    | some name =>
      if params.isEmpty || name ≠ "CHAR" then name
      else name ++ "(" ++ String.intercalate ", " (renderList d params) ++ ")"
    | none =>
      let name := kind.spelling d params.isEmpty
      if params.isEmpty then name else name ++ "(" ++ String.intercalate ", " (renderList d params) ++ ")"
  | .array element size =>
    let extent := String.intercalate ", " (renderList d size)
    match d with
    | .postgres => element.render d ++ "[" ++ extent ++ "]"
    | _ => "ARRAY<" ++ element.render d ++ ">" ++ if size.isEmpty then "" else "[" ++ extent ++ "]"
  | .nested name inner => name ++ "<" ++ String.intercalate ", " (renderTypes d inner) ++ ">"
  | .field name type => name.render d ++ " " ++ type.render d
  | .userDefined path _ => renderPath d path
  | .interval unit => if unit = "" then "INTERVAL" else "INTERVAL " ++ unit

/-- The texts of some types. -/
def renderTypes (d : Dialect) : List DataType → List String
  | [] => []
  | t :: ts => t.render d :: renderTypes d ts

end

end DumpSummary.Sql
