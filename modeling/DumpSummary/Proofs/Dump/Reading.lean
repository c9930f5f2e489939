import DumpSummary.Proofs.Dump.Records

/-!
# Reading a dump in any reading

How a dump is split and put together again does not depend on how its fragments are read.  Here the reading of the
fragments is left open, so what is proved about it holds of every dialect, whatever its statements look like; a dump
under the name of a known dialect is read in the reading of that dialect.

## Contents

* `Reading.read`, `Reading.summarizeDump`: the records and the summary of a dump in a reading;
* `read_of_known`, `summarizeDump_of_known`: a dump under the name of a dialect;
* `Reading.LeavesLines`, `leavesLines_ofDialect`: the lines are left to the reader of the dump;
* `Reading.values`, `convertAll_eq`: the records of statements, apart from their lines;
* `records_cons`, `records_append`: fragments one after the other.
-/

namespace DumpSummary.Dump

open Script Record

/-- The records of a dump under a dialect name, its fragments read in a given reading. -/
def Reading.read (r : Reading) (dialect : Option String) (strict : Bool) (dump : String) :
    Except Failure (List Value) :=
  r.records strict (split (effectiveDialect dialect dump) dump)

/-- The summary of a dump under a dialect name, its fragments read in a given reading. -/
def Reading.summarizeDump (r : Reading) (dialect : Option String) (strict : Bool) (dump : String) :
    Except Failure Summary :=
  (r.read dialect strict dump).map fun records => summarize (.list records)

/-! ## Names of dialects -/

variable {dialect : Option String} {dump : String} {d : Dialect}

/-- **A known dialect** reads a dump in its reading. -/
theorem read_of_known (h : Dialect.ofName? (effectiveDialect dialect dump) = some d) (strict : Bool) :
    Dump.read dialect strict dump = (Reading.ofDialect d).read dialect strict dump := by
  unfold Dump.read readFragments
  dsimp only
  rw [h]
  rfl

theorem summarizeDump_of_known (h : Dialect.ofName? (effectiveDialect dialect dump) = some d) (strict : Bool) :
    summarizeDump dialect strict dump = (Reading.ofDialect d).summarizeDump dialect strict dump := by
  unfold summarizeDump
  rw [read_of_known h]
  rfl

/-! ## The lines are left to the reader of the dump -/

/-- The value has no field of that name. -/
def Lacks (key : String) : Value → Prop
  | .record fields => ∀ f ∈ fields, f.1 ≠ key
  | _ => True

/-- The record of a statement says nothing of its lines. -/
def Reading.LeavesLines (r : Reading) : Prop := ∀ s v, r.convert s = .ok v → Lacks "loc" v

/-- No field of the record of a statement is for its lines. -/
theorem key_ne_loc {d : Dialect} {s : Sql.Statement} {fields : List (String × Value)}
    (h : fieldsOf d s = .ok fields) : ∀ f ∈ fields, f.1 ≠ "loc" := by
  cases s with
  | use target =>
    cases h
    simp
  | create kind target items =>
    unfold fieldsOf at h
    dsimp only at h
    split at h
    · cases hitems : items.mapM (ofSchemaItem d) with
      | error e => rw [hitems] at h; cases h
      | ok vs =>
        rw [hitems] at h
        cases h
        cases target <;> simp [tableField]
    · cases h
      cases target <;> simp
  | insert target rows =>
    cases h
    cases target <;> cases rows <;> simp [tableField]
  | raw keyword =>
    cases h
    simp
  | other key =>
    cases h
    simp

/-- **Every dialect** leaves the lines to the reader of the dump. -/
theorem leavesLines_ofDialect (d : Dialect) : (Reading.ofDialect d).LeavesLines := by
  intro s v h
  have hrecord : (fieldsOf d s).map Value.record = .ok v := by
    rw [← h]
    show _ = ofStatement d s
    unfold ofStatement
    cases fieldsOf d s <;> rfl
  cases hfields : fieldsOf d s with
  | error e => rw [hfields] at hrecord; cases hrecord
  | ok fields =>
    rw [hfields] at hrecord
    cases hrecord
    exact key_ne_loc hfields

/-! ## Statements without their lines -/

variable (r : Reading)

/-- The records of statements without lines, or the first fault. -/
def Reading.values : List Sql.Statement → Except Failure (List Value)
  | [] => .ok []
  | s :: ss => do return (← (r.convert s).mapError Failure.noRecord) :: (← Reading.values ss)

/-- **The lines** are put into the records when all are there. -/
theorem convertAll_eq (l : LineRange) (ss : List Sql.Statement) :
    r.convertAll l ss = (r.values ss).map (List.map (withLines l)) := by
  induction ss with
  | nil => rfl
  | cons s ss ih =>
    unfold Reading.convertAll Reading.values
    cases r.convert s with
    | error fault => rfl
    | ok v =>
      dsimp only
      rw [ih]
      cases r.values ss <;> rfl

/-! ## Fragments one after the other -/

variable (strict : Bool)

theorem records_cons (f : Fragment) (fs : List Fragment) :
    r.records strict (f :: fs) = do return (← r.fragmentRecords strict f) ++ (← r.records strict fs) := by
  rw [Reading.records]
  cases r.fragmentRecords strict f with
  | error e => rfl
  | ok us => cases r.records strict fs <;> rfl

theorem records_append (fs gs : List Fragment) :
    r.records strict (fs ++ gs) = do return (← r.records strict fs) ++ (← r.records strict gs) := by
  induction fs with
  | nil => cases h : r.records strict gs <;> simp [h, Reading.records, bind, Except.bind, pure, Except.pure]
  | cons f fs ih =>
    rw [List.cons_append, records_cons, records_cons, ih]
    cases r.fragmentRecords strict f with
    | error e => rfl
    | ok us =>
      cases r.records strict fs with
      | error e => rfl
      | ok vs =>
        cases r.records strict gs with
        | error e => rfl
        | ok ws => exact congrArg Except.ok (List.append_assoc us vs ws).symm

end DumpSummary.Dump
