import DumpSummary.Proofs.Script.Verbatim
import DumpSummary.Sql.Syntax
import DumpSummary.Summary.Basic
import Mathlib.Algebra.GroupWithZero.Nat

/-!
# Databases described and printed

A description holds what a dump says about a database: its name, its tables with their columns, and the rows of each
table.  A description can be printed as the script that would build the database, and it has a summary of its own,
which knows nothing of the script.

## Contents

* `Description.Name`, `Size`, `Kind`, `ColumnSpec`, `TableSpec`, `Description`: descriptions;
* `Description.Line`: the statements that build a database, each with its text and its tree;
* `Description.script`: a description as a script;
* `Description.summary`: the summary of the database.
-/

namespace DumpSummary

namespace Description

/-! ## Names and types -/

/-- A word of small letters, digits and low lines that begins with a letter. -/
def isSmallWord : List Char → Bool
  | [] => false
  | c :: cs => c.isLower && cs.all fun e => e.isLower || e.isDigit || e == '_'

/-- The name of a database, a table or a column. -/
structure Name where
  /-- The name. -/
  text : String
  /-- It is a small word. -/
  small : isSmallWord text.toList = true

/-- A name has no backtick inside. -/
theorem Name.backtick_notMem (n : Name) : '\x60' ∉ n.text.toList := by
  intro hmem
  have hsmall := n.small
  cases hw : n.text.toList with
  | nil => rw [hw] at hmem; cases hmem
  | cons c w =>
    rw [hw] at hmem hsmall
    obtain ⟨hc, hall⟩ : c.isLower = true ∧ (w.all fun e => e.isLower || e.isDigit || e == '_') = true := by
      simpa [isSmallWord] using hsmall
    rcases List.mem_cons.mp hmem with rfl | hmem
    · exact absurd hc (by decide)
    · exact absurd (List.all_eq_true.mp hall _ hmem) (by decide)

/-- A size in a type. -/
structure Size where
  /-- The size. -/
  value : Nat
  /-- It is positive. -/
  pos : 0 < value
  /-- It has at most eighteen digits. -/
  lt : value < 10 ^ 18

/-- A number is written in digits. -/
theorem isDigit_of_mem_repr {n : Nat} {c : Char} (h : c ∈ (Nat.repr n).toList) : c.isDigit = true := by
  rw [Nat.toList_repr] at h
  exact Nat.isDigit_of_mem_toDigits (by decide) (by decide) h

/-- The type of a column. -/
inductive Kind
  /-- Whole numbers. -/
  | int
  /-- Text up to a length. -/
  | varchar (length : Size)
  /-- Decimal numbers of a precision and a scale. -/
  | decimal (precision scale : Size)

/-- The type as it is written and shown. -/
def Kind.text : Kind → String
  | .int => "INT"
  | .varchar n => "VARCHAR(" ++ Nat.repr n.value ++ ")"
  | .decimal p s => "DECIMAL(" ++ Nat.repr p.value ++ "," ++ Nat.repr s.value ++ ")"

/-! ## Tables -/

/-- A column. -/
structure ColumnSpec where
  /-- Its name. -/
  name : Name
  /-- Its type. -/
  kind : Kind

/-- A table with its rows. -/
structure TableSpec where
  /-- Its name. -/
  name : Name
  /-- Its columns. -/
  columns : List ColumnSpec
  /-- There is a column. -/
  columns_ne_nil : columns ≠ []
  /-- Its rows, each with the values of its columns. -/
  rows : List (List String)
  /-- Each row has one value for each column. -/
  fits : ∀ row ∈ rows, row.length = columns.length

end Description

/-- A database. -/
structure Description where
  /-- Its name. -/
  database : Description.Name
  /-- Its tables. -/
  tables : List Description.TableSpec
  /-- No two tables share a name. -/
  distinct : (tables.map fun t => t.name.text).Nodup

namespace Description

/-! ## Statements -/

/-- A statement of the script that builds a database. -/
inductive Line
  /-- The choice of the database. -/
  | use (database : Name)
  /-- The creation of a table. -/
  | create (table : TableSpec)
  /-- The insertion of all rows of a table that has some. -/
  | fill (table : TableSpec) (filled : table.rows ≠ [])

/-- A name between backticks. -/
def Name.quoted (n : Name) : List Char := '\x60' :: n.text.toList ++ ['\x60']

/-- A value between single quotes, with the quotes and the backslashes in it doubled. -/
def quotedValue (v : String) : List Char := '\x27' :: Script.literalBody true v.toList ++ ['\x27']

/-- A column with its type. -/
def ColumnSpec.text (c : ColumnSpec) : List Char := c.name.quoted ++ ' ' :: c.kind.text.toList

/-- The values of a row. -/
def rowText (row : List String) : List Char := '(' :: List.intercalate [','] (row.map quotedValue) ++ [')']

/-- The creation of a table with entries of the given texts. -/
def creationText (table : Name) (entries : List (List Char)) : List Char :=
  "CREATE TABLE ".toList ++ table.quoted ++ (' ' :: '(' :: List.intercalate [',', ' '] entries ++ [')'])

/-- The text of a statement, without its semicolon. -/
def Line.text : Line → List Char
  | .use n => "USE ".toList ++ n.quoted
  | .create t => creationText t.name (t.columns.map ColumnSpec.text)
  | .fill t _ =>
    "INSERT INTO ".toList ++ t.name.quoted
      ++ (" VALUES ".toList ++ List.intercalate [','] (t.rows.map rowText))

/-- The statements that build a table: its creation and, if it has rows, their insertion. -/
def TableSpec.lines (t : TableSpec) : List Line :=
  if h : t.rows = [] then [.create t] else [.create t, .fill t h]

/-- The statements that build the database. -/
def lines (db : Description) : List Line := .use db.database :: db.tables.flatMap TableSpec.lines

/-- The script that builds the database: its statements, each with a semicolon and the gap after it. -/
def script (db : Description) (gap : String) : String :=
  String.ofList (Script.scriptOf gap.toList (db.lines.map Line.text))

/-! ## Summaries -/

/-- A column as a summary shows it. -/
def ColumnSpec.column (c : ColumnSpec) : Column := ⟨c.name.text, c.kind.text⟩

/-- A table as a summary shows it. -/
def TableSpec.table (t : TableSpec) : Table := ⟨t.name.text, t.columns.map ColumnSpec.column, t.rows.length⟩

/-- The summary of the database. -/
def summary (db : Description) : Summary := ⟨some db.database.text, db.tables.map TableSpec.table⟩

end Description
end DumpSummary
