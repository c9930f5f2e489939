import DumpSummary.Value.Basic

/-!
# References to tables, databases and columns

A statement record names a table, a database or a column in one of several nested shapes.  Each function here
locates the name; a shape it does not know gives no name and is never an error.

## Contents

* `Reference`: a located name, or none;
* `Reference.ofTable`, `Reference.ofDatabase`: the target of a statement; an empty text is no name;
* `Reference.ofColumn`, `columnName`: the name of a column; an empty text is a name.
-/

namespace DumpSummary

/-- The name of a table, database or column whose name or type is not known. -/
def unknown : String := "unknown"

/-- What a reference names. -/
inductive Reference
  /-- A name was located. -/
  | named (name : String)
  /-- The shape is not one of those known. -/
  | unrecognized
  deriving DecidableEq, Repr

namespace Reference

/-- The located name. -/
def name? : Reference → Option String
  | .named n => some n
  | .unrecognized => none

/-- A text as a name; an empty one names nothing. -/
def ofText (s : String) : Reference :=
  if s = "" then .unrecognized else .named s

/-- The name in a table object: its field `table`, or the field `table` of that. -/
def ofTableObject (v : Value) : Reference :=
  match v.field "table" with
  | .text s => ofText s
  | inner =>
    match inner.field "table" with
    | .text s => ofText s
    | _ => .unrecognized

/-- The name of a table: a text, a table object, or a list whose first item is one of these. -/
def ofTable : Value → Reference
  | .text s => ofText s
  | .list [] => .unrecognized
  | .list (.text s :: _) => ofText s
  | .list (v :: _) => ofTableObject v
  | v => ofTableObject v

/-- The name of a database: a text in the field `db`, or else any shape of a table's name. -/
def ofDatabase (v : Value) : Reference :=
  match v.field "db" with
  | .text s => ofText s
  | _ => ofTable v

/-- Follows the field `column` for at most so many steps, up to the first text. -/
def followColumn : Nat → Value → Reference
  | 0, _ => .unrecognized
  | steps + 1, v =>
    match v.field "column" with
    | .text s => .named s
    | inner => followColumn steps inner

/-- The name of a column: a text under `column`, at most three levels down. -/
def ofColumn (v : Value) : Reference :=
  followColumn 3 v

end Reference

/-- The name of a column, `unknown` where there is none. -/
def columnName (v : Value) : String :=
  (Reference.ofColumn v).name?.getD unknown

end DumpSummary
