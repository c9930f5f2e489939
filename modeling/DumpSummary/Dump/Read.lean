import DumpSummary.Dialect.Detect
import DumpSummary.Record.OfStatement
import DumpSummary.Script.Split
import DumpSummary.Sql.Parser
import DumpSummary.Summary.Fold

/-!
# Reading a dump

A dump is split into fragments, each fragment is read as statements, and each statement becomes a record with its
lines.  A fragment that cannot be read becomes a record of its own or, in strict reading, ends the reading.

## Contents

* `Reading`: how fragments are split and read;
* `Failure`: why a dump has no records;
* `Reading.records`: the records of a text;
* `read`, `summarizeDump`: the records and the summary of a dump under a dialect name.
-/

namespace DumpSummary.Dump

open Script

/-- Why a dump has no records. -/
inductive Failure
  /-- There are no rules for a dialect of that name. -/
  | unknownDialect (name : String)
  /-- Strict reading met a fragment that cannot be read. -/
  | rejected (cause : Sql.Rejection) (lines : LineRange)
  /-- A statement has no record. -/
  | noRecord (fault : Record.Fault)
  deriving DecidableEq, Repr

/-- How the text of a fragment becomes records without lines. -/
structure Reading where
  /-- The statements of a text. -/
  parse : String → Except Sql.Rejection (List Sql.Statement)
  /-- The record of a statement. -/
  convert : Sql.Statement → Except Record.Fault Value

/-- The reading of a dialect. -/
def Reading.ofDialect (d : Dialect) : Reading :=
  ⟨Sql.parse d, Record.ofStatement d⟩

/-- The lines of a statement as data. -/
def linesValue (l : LineRange) : Value :=
  .record [("start_line", .int l.first), ("end_line", .int l.last)]

/-- A record with the lines of its statement. -/
def withLines (l : LineRange) : Value → Value
  | .record fields => .record (fields ++ [("loc", linesValue l)])
  | v => v

/-- The record of a fragment that cannot be read. -/
def unparsed (f : Fragment) : Value :=
  withLines f.lines (.record [("type", .text "unparsed"), ("text", .text f.text)])

/-- The records of statements, or the first fault. -/
def Reading.convertAll (r : Reading) (lines : LineRange) : List Sql.Statement → Except Failure (List Value)
  | [] => .ok []
  | s :: ss =>
    match r.convert s with
    | .error fault => .error (.noRecord fault)
    | .ok v =>
      match r.convertAll lines ss with
      | .error e => .error e
      | .ok vs => .ok (withLines lines v :: vs)

/-- The records of a fragment. -/
def Reading.fragmentRecords (r : Reading) (strict : Bool) (f : Fragment) : Except Failure (List Value) :=
  match r.parse f.text with
  | .ok statements => r.convertAll f.lines statements
  | .error cause => if strict then .error (.rejected cause f.lines) else .ok [unparsed f]

/-- The records of fragments in order, or the first failure. -/
def Reading.records (r : Reading) (strict : Bool) : List Fragment → Except Failure (List Value)
  | [] => .ok []
  | f :: fs =>
    match r.fragmentRecords strict f with
    | .error e => .error e
    | .ok vs =>
      match r.records strict fs with
      | .error e => .error e
      | .ok rest => .ok (vs ++ rest)

/-- The name of the dialect that a dump is read in: `auto` means the one that the dump shows. -/
def effectiveDialect (dialect : Option String) (dump : String) : Option String :=
  if dialect = some "auto" then some (Dialect.detect dump) else dialect

/-- The records of fragments under a dialect name.  A name without rules matters only if there is a fragment to
read. -/
def readFragments (dialect : Option String) (strict : Bool) (fragments : List Fragment) :
    Except Failure (List Value) :=
  match Dialect.ofName? dialect with
  | some d => (Reading.ofDialect d).records strict fragments
  | none => if fragments.isEmpty then .ok [] else .error (.unknownDialect (dialect.getD ""))

/-- The records of a dump under a dialect name. -/
def read (dialect : Option String) (strict : Bool) (dump : String) : Except Failure (List Value) :=
  let effective := effectiveDialect dialect dump
  readFragments effective strict (split effective dump)

/-- The summary of a dump under a dialect name. -/
def summarizeDump (dialect : Option String) (strict : Bool) (dump : String) : Except Failure Summary :=
  (read dialect strict dump).map fun records => summarize (.list records)

end DumpSummary.Dump
