import DumpSummary.Value.Basic
import DumpSummary.Json.Writer

/-!
# The summary of a dump

The name of the database and, for each table in the order of first declaration, its columns and the number of
rows inserted into it.

## Contents

* `Column`, `Table`, `Summary`: the types;
* `Summary.table?`: a table by its name;
* `Summary.totalTables`, `Summary.totalColumns`, `Summary.totalRows`: the totals;
* `Summary.toValue`, `Summary.toJson`: the summary as data and as text;
* `Summary.json`: the text, where it can be written.
-/

namespace DumpSummary

/-- A column of a declared table. -/
structure Column where
  /-- The column's name. -/
  name : String
  /-- The text of the column's type. -/
  type : String
  deriving DecidableEq, Repr

/-- A declared table. -/
structure Table where
  /-- The table's name. -/
  name : String
  /-- The columns in the order of declaration. -/
  columns : List Column
  /-- The number of rows inserted since the declaration. -/
  rows : Int
  deriving DecidableEq, Repr

/-- The summary of a dump. -/
structure Summary where
  /-- The database in use at the end of the dump. -/
  database : Option String
  /-- The tables in the order of their first declaration. -/
  tables : List Table
  deriving DecidableEq, Repr

namespace Summary

/-- The summary of an empty dump. -/
def empty : Summary := ⟨none, []⟩

/-- The number of tables. -/
def totalTables (s : Summary) : Nat := s.tables.length

/-- The number of columns of all tables. -/
def totalColumns (s : Summary) : Nat := s.tables.foldl (fun n t => n + t.columns.length) 0

/-- The number of rows of all tables. -/
def totalRows (s : Summary) : Int := s.tables.foldl (fun n t => n + t.rows) 0

/-- The first table of exactly that name. -/
def table? (s : Summary) (name : String) : Option Table :=
  s.tables.find? (·.name == name)

end Summary

/-- A column as data. -/
def Column.toValue (c : Column) : Value :=
  .record [("columnName", .text c.name), ("dataType", .text c.type)]

/-- A table as data. -/
def Table.toValue (t : Table) : Value :=
  .record [("tableName", .text t.name), ("columns", .list (t.columns.map Column.toValue)), ("rowCount", .int t.rows)]

/-- The summary as data. -/
def Summary.toValue (s : Summary) : Value :=
  .record [("databaseName", .ofText? s.database), ("totalTables", .int s.totalTables),
    ("tables", .list (s.tables.map Table.toValue))]

/-- The summary as JSON text with that indentation.  It is what a run prints, whose indentation is small and whose
numbers are counts. -/
def Summary.toJson (s : Summary) (indent : Option Int) : String :=
  Json.write (.ofIndent indent) s.toValue

/-- The JSON text of any summary under any indentation, if it can be written. -/
def Summary.json (s : Summary) (indent : Option Int) : Except Json.Fault String :=
  Json.dump indent s.toValue

end DumpSummary
