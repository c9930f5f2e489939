import DumpSummary.Sql.Token

/-!
# Statements as trees

What is kept of a statement: all of a definition or a value that is shown again, and of the rest only its kind.

## Contents

* `Ident`: names;
* `TypeKind`, `DataType`, `Expr`: types and expressions;
* `TableName`, `SchemaItem`, `Statement`: statements.
-/

namespace DumpSummary.Sql

/-- A name, and whether it was quoted. -/
structure Ident where
  /-- The name without quotes. -/
  text : String
  /-- Whether it was quoted. -/
  quoted : Bool
  deriving DecidableEq, Repr, Inhabited

/-- The built-in types.  Those whose spelling depends on the dialect have constructors of their own. -/
inductive TypeKind
  /-- Integers of 8 bits. -/
  | tinyInt
  /-- Integers of 16 bits. -/
  | smallInt
  /-- Integers of 32 bits. -/
  | int
  /-- Integers of 64 bits. -/
  | bigInt
  /-- The numbers of a type without the negative ones, by that type's common name. -/
  | unsigned (name : String)
  /-- Single precision. -/
  | float
  /-- Double precision. -/
  | double
  /-- Decimal numbers. -/
  | decimal
  /-- Truth values. -/
  | boolean
  /-- Text of a fixed length. -/
  | char
  /-- National text of a fixed length. -/
  | nchar
  /-- Text up to a length. -/
  | varchar
  /-- National text up to a length. -/
  | nvarchar
  /-- Text of any length. -/
  | text
  /-- National text of any length. -/
  | ntext
  /-- One of the sized text types, by its name. -/
  | sizedText (name : String)
  /-- Bytes of a fixed length. -/
  | binary
  /-- Bytes up to a length. -/
  | varbinary
  /-- One of the sized byte types, by its name. -/
  | sizedBlob (name : String)
  /-- A time of day with its zone. -/
  | timeWithZone
  /-- A date and a time. -/
  | dateTime
  /-- A point in time. -/
  | timestamp
  /-- A point in time with its zone. -/
  | timestampWithZone
  /-- A point in time shown in the session's zone. -/
  | timestampWithLocalZone
  /-- A version number of a row. -/
  | rowVersion
  /-- A universally unique identifier. -/
  | uuid
  /-- One of some listed strings. -/
  | enum
  /-- A type that is spelled the same in every dialect. -/
  | plain (name : String)
  deriving DecidableEq, Repr, Inhabited

/-- An operator between two operands. -/
structure Operator where
  /-- The operator as it is written. -/
  text : String
  /-- The kind of expression that it makes. -/
  key : String
  deriving DecidableEq, Repr, Inhabited

mutual

/-- An expression, a query or a part of one. -/
inductive Expr
  /-- A column, by its dotted name. -/
  | column (path : List Ident)
  /-- All columns, of everything or of the named relation. -/
  | star (path : List Ident)
  /-- A number as written. -/
  | number (text : String)
  /-- A string. -/
  | string (kind : StringKind) (text : String)
  /-- A value behind the name of a character set. -/
  | introduced (charset : String) (value : Expr)
  /-- A word that is a value or a part of a phrase, as it is written out. -/
  | word (key text : String)
  /-- A truth value. -/
  | boolean (b : Bool)
  /-- A sign before an operand. -/
  | unary (op : Operator) (e : Expr)
  /-- A logical negation. -/
  | negation (e : Expr)
  /-- An operator between two operands. -/
  | binary (op : Operator) (l r : Expr)
  /-- A range test. -/
  | between (e low high : Expr)
  /-- A test for membership in a list or in the rows of a query. -/
  | membership (e : Expr) (items : List Expr)
  /-- A call of a function. -/
  | call (key : String) (name : Ident) (args : List Expr)
  /-- A conversion, by the word that asks for it. -/
  | cast (function : String) (e : Expr) (type : DataType)
  /-- An expression in parentheses. -/
  | paren (e : Expr)
  /-- Several expressions in parentheses, or none. -/
  | tuple (items : List Expr)
  /-- An array. -/
  | array (items : List Expr)
  /-- An element or a slice of an array. -/
  | index (e : Expr) (subscripts : List Expr)
  /-- An expression with a name. -/
  | alias (e : Expr) (name : Ident)
  /-- Parts with a space between them. -/
  | phrase (key : String) (parts : List Expr)
  /-- A keyword before a list. -/
  | clause (keyword : String) (items : List Expr)
  /-- A query: its clauses in order. -/
  | query (key : String) (clauses : List Expr)
  /-- A query in parentheses. -/
  | subquery (e : Expr)

/-- The type of a column or of a conversion. -/
inductive DataType
  /-- A built-in type with its parameters. -/
  | builtin (kind : TypeKind) (params : List Expr)
  /-- Arrays of a type, of a size if one is given. -/
  | array (element : DataType) (size : List Expr)
  /-- A type made of others, by its name. -/
  | nested (name : String) (inner : List DataType)
  /-- A field of a type made of others. -/
  | field (name : Ident) (type : DataType)
  /-- A type that the dump defines, by its dotted name, with parameters. -/
  | userDefined (path : List Ident) (params : List Expr)
  /-- Lengths of time in a unit. -/
  | interval (unit : String)

end

/-- Any expression will do. -/
instance : Inhabited Expr := ⟨.star []⟩

/-- Any type will do. -/
instance : Inhabited DataType := ⟨.interval ""⟩

/-- The dotted name of a table. -/
structure TableName where
  /-- Its parts, the table last. -/
  path : List Ident
  deriving DecidableEq, Repr, Inhabited

/-- The name of the table itself. -/
def TableName.name (t : TableName) : String :=
  match t.path.getLast? with
  | some i => i.text
  | none => ""

/-- The name of the database or schema, which is the first of two parts and the second of more; empty where there
is none. -/
def TableName.database (t : TableName) : String :=
  match t.path with
  | [] | [_] => ""
  | [i, _] => i.text
  | _ :: i :: _ => i.text

/-- The kinds of table constraint. -/
inductive ConstraintKind
  /-- A primary key. -/
  | primaryKey
  /-- A foreign key. -/
  | foreignKey
  /-- A uniqueness constraint. -/
  | unique
  /-- A condition. -/
  | check
  /-- A constraint with a name of its own. -/
  | named
  /-- Anything else, by its name. -/
  | other (key : String)
  deriving DecidableEq, Repr, Inhabited

/-- A column definition.  Its options are read but not kept. -/
structure ColumnDefinition where
  /-- The column's name. -/
  name : String
  /-- The declared type. -/
  type : Option DataType

/-- An entry of a table's definition. -/
inductive SchemaItem
  /-- A column. -/
  | column (c : ColumnDefinition)
  /-- A constraint, or an entry that is none of these. -/
  | constraint (kind : ConstraintKind) (body : Expr)

/-- A statement. -/
inductive Statement
  /-- The choice of a database, by the name of the target if there is one. -/
  | use (target : Option String)
  /-- The creation of an object of a kind, with the table name it goes by, if any, and its entries. -/
  | create (kind : String) (target : Option TableName) (items : List SchemaItem)
  /-- An insertion into a table, if the target is one; its rows, if it lists them. -/
  | insert (target : Option TableName) (rows : Option (List (List Expr)))
  /-- A statement kept as raw text, by its leading keyword in capitals. -/
  | raw (keyword : String)
  /-- Any other statement, by its kind. -/
  | other (key : String)

/-- The kind of an expression that stands alone as a statement. -/
def Expr.key : Expr → String
  | .column _ => "column"
  | .star [] => "star"
  | .star _ => "column"
  | .number _ => "literal"
  | .string .plain _ => "literal"
  | .string .national _ => "national"
  | .string .hexadecimal _ => "hexstring"
  | .string .hexadecimalNumber _ => "hexstring"
  | .string .binary _ => "bitstring"
  | .string .escaped _ => "bytestring"
  | .introduced _ _ => "introducer"
  | .word key _ => key
  | .boolean _ => "boolean"
  | .unary op _ => op.key
  | .negation _ => "not"
  | .binary op _ _ => op.key
  | .between _ _ _ => "between"
  | .membership _ _ => "in"
  | .call key _ _ => key
  | .cast function _ _ => if function = "TRY_CAST" then "trycast" else "cast"
  | .paren _ => "paren"
  | .tuple _ => "tuple"
  | .array _ => "array"
  | .index _ _ => "bracket"
  | .alias _ _ => "alias"
  | .phrase key _ => key
  | .clause _ _ => "clause"
  | .query key _ => key
  | .subquery _ => "subquery"

end DumpSummary.Sql
