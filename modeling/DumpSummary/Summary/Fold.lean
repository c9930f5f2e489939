import DumpSummary.ColumnType
import DumpSummary.Settings.Basic
import DumpSummary.Summary.Basic

/-!
# Folding statement records into a summary

A record is told by its field `type`.  A `use` record names the database, the last one wins.  A `create` record
of a table declares it or declares it anew, which empties it but leaves it in its place.  An `insert` record adds
its rows to a declared table.  Every other record is passed over.  The state of the fold is the summary itself.

## Contents

* `columnsOf`, `rowCount`: the columns and the rows that a record carries;
* `Notice`: what the fold reports about a record that it passes over or that replaces a declaration;
* `Summary.step`: one record;
* `Summary.run`, `analyze`: a sequence of records, with the notices;
* `summarize`: the summary alone;
* `logLines`: the notices as they are logged.
-/

namespace DumpSummary

/-- The columns of a definition list: its records whose `resource` is `column`. -/
def columnsOf : Value → List Column
  | .list entries =>
    (entries.filter fun e => match e.field "resource" with
      | .text s => s == "column"
      | _ => false).map
      fun e => ⟨columnName e, (ColumnType.ofDefinition (e.field "definition")).text⟩
  | _ => []

/-- The rows that an insert contributes: the length of its list of rows, or one without such a list. -/
def rowCount : Value → Nat
  | .list rows => rows.length
  | _ => 1

/-- What the fold reports. -/
inductive Notice
  /-- The input is neither a record nor a list; its kind. -/
  | nothingToAnalyze (kind : String)
  /-- The item at that place is no record. -/
  | notARecord (index : Nat)
  /-- A record of a type that contributes nothing. -/
  | ignoredType (type : Value)
  /-- A `use` record whose target has no known shape. -/
  | useNotRecognized (target : Value)
  /-- A `create` record of a table whose name has no known shape. -/
  | createWithoutName
  /-- A table is declared again. -/
  | redeclared (name : String)
  /-- An insert into a table that is not declared, or whose name has no known shape. -/
  | insertIgnored (name : Option String)

/-- The wording of a notice. -/
def Notice.text : Notice → String
  | .nothingToAnalyze kind => "Nothing to analyze in " ++ kind ++ " input"
  | .notARecord index => "Skipping statement #" ++ Nat.repr index ++ ": not a record"
  | .ignoredType type => "Ignoring statement of type " ++ type.quoted
  | .useNotRecognized target => "USE target not recognized: " ++ target.quoted
  | .createWithoutName => "CREATE TABLE without a recognizable table name"
  | .redeclared name => "Table " ++ name ++ " re-declared; discarding previous definition"
  | .insertIgnored name => "INSERT into undeclared table " ++ (Value.ofText? name).quoted ++ " ignored"

/-- The level at which a notice is logged. -/
def Notice.level : Notice → LogLevel
  | .nothingToAnalyze _ => .debug
  | .notARecord _ => .debug
  | .ignoredType _ => .debug
  | .useNotRecognized _ => .debug
  | .createWithoutName => .debug
  | .redeclared _ => .debug
  | .insertIgnored _ => .debug

/-- A notice as it is logged. -/
def Notice.line (n : Notice) : LogLevel × String := (n.level, n.text)

namespace Summary

/-- Whether a table of that name is declared. -/
def declares (s : Summary) (name : String) : Bool :=
  s.tables.any (·.name == name)

/-- Declares an empty table.  A table that is declared already gets the new columns in its old place. -/
def declare (s : Summary) (name : String) (columns : List Column) : Summary :=
  if s.declares name then
    { s with tables := s.tables.map fun t => if t.name = name then ⟨name, columns, 0⟩ else t }
  else { s with tables := s.tables ++ [⟨name, columns, 0⟩] }

/-- Adds rows to the table of that name. -/
def addRows (s : Summary) (name : String) (n : Nat) : Summary :=
  { s with tables := s.tables.map fun t => if t.name = name then { t with rows := t.rows + n } else t }

/-- A `use` record. -/
def applyUse (s : Summary) (r : Value) : Summary × Option Notice :=
  let target := r.field "db"
  if !target.isTruthy then (s, none)
  else match Reference.ofDatabase target with
    | .named name => ({ s with database := some name }, none)
    | .unrecognized => (s, some (.useNotRecognized target))

/-- A `create` record. -/
def applyCreate (s : Summary) (r : Value) : Summary × Option Notice :=
  match r.field "keyword" with
  | .text "table" =>
    if !(r.field "table").isTruthy then (s, none)
    else match Reference.ofTable (r.field "table") with
      | .named name =>
        (s.declare name (columnsOf (r.field "create_definitions")),
          if s.declares name then some (.redeclared name) else none)
      | .unrecognized => (s, some .createWithoutName)
  | _ => (s, none)

/-- An `insert` record. -/
def applyInsert (s : Summary) (r : Value) : Summary × Option Notice :=
  if !(r.field "table").isTruthy then (s, none)
  else match Reference.ofTable (r.field "table") with
    | .named name =>
      if s.declares name then (s.addRows name (rowCount (r.field "values")), none)
      else (s, some (.insertIgnored (some name)))
    | .unrecognized => (s, some (.insertIgnored none))

/-- One record. -/
def apply (s : Summary) (r : Value) : Summary × Option Notice :=
  match r.field "type" with
  | .text "use" => s.applyUse r
  | .text "create" => s.applyCreate r
  | .text "insert" => s.applyInsert r
  | type => (s, some (.ignoredType type))

/-- One item of a list of statements, at its place in the list. -/
def step (s : Summary) (index : Nat) (v : Value) : Summary × Option Notice :=
  if v.isRecord then s.apply v else (s, some (.notARecord index))

/-- A list of statements, the first of which has the given place. -/
def run (s : Summary) (index : Nat) : List Value → Summary × List Notice
  | [] => (s, [])
  | v :: vs =>
    let (s', notice) := s.step index v
    let (final, notices) := s'.run (index + 1) vs
    (final, notice.toList ++ notices)

end Summary

/-- The summary of a list of statements or of a single record, and the notices in order.  Any other value has
nothing to analyze. -/
def analyze : Value → Summary × List Notice
  | .list vs => Summary.empty.run 0 vs
  | .record fields => Summary.empty.run 0 [.record fields]
  | v => (.empty, [.nothingToAnalyze v.kindName])

/-- The summary of a list of statements or of a single record. -/
def summarize (v : Value) : Summary :=
  (analyze v).1

/-- What is logged about a list of statements or about a single record. -/
def logLines (v : Value) : List (LogLevel × String) :=
  (analyze v).2.map Notice.line

end DumpSummary
