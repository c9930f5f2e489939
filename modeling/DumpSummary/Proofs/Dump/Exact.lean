import DumpSummary.Proofs.Dump.Reading
import DumpSummary.Proofs.Json.ReadBack
import DumpSummary.Proofs.Outcome

/-!
# The records of a dump are kept by their text

The records of statements hold texts and whole numbers only, and no field of theirs has the name of another one, the
lines included.  So the JSON text of all records of a dump is read back as these records, whatever stands in the dump.

## Contents

* `exact_columnDefinition`, `exact_schemaItem`, `exact_ofStatement`: what a statement's record consists of;
* `exact_withLines`, `exact_convertAll`, `exact_records`: records with their lines;
* `exact_read`: **the records of a dump are exact.**
-/

namespace DumpSummary

open Json (Exact exact_ofText? exact_texts)

namespace Record

open Sql

variable {d : Dialect}

/-- A number of a type parameter is a whole number or a text. -/
theorem exact_numberValue {text : String} {v : Value} (h : numberValue text = .ok v) : Exact v := by
  unfold numberValue at h
  dsimp only at h
  split at h
  · cases h
    exact .text text
  · split at h
    · cases h
    · split at h
      · rename_i n _
        cases h
        exact .int n
      · cases h

/-- The definition of a column. -/
theorem exact_columnDefinition {type : Option DataType} {v : Value} (h : columnDefinition d type = .ok v) : Exact v := by
  cases type with
  | none =>
    cases h
    exact .record (by simp) (by simp)
  | some t =>
    unfold columnDefinition at h
    obtain ⟨params, hparams, h⟩ := exists_of_bind h
    have hexact : ∀ p ∈ params, Exact p := forall_of_mapM (fun _ _ => exact_numberValue) hparams
    cases h
    match params with
    | [] => exact .record (by simp) (by simp [Exact.text])
    | [length] =>
      refine .record (by simp) ?_
      simpa [Exact.text] using hexact
    | length :: scale :: rest =>
      refine .record (by simp) ?_
      simp only [List.forall_mem_cons] at hexact
      simp [Exact.text, hexact.1, hexact.2.1]

/-- The entry of a definition. -/
theorem exact_schemaItem {item : SchemaItem} {v : Value} (h : ofSchemaItem d item = .ok v) : Exact v := by
  cases item with
  | column c =>
    unfold ofSchemaItem at h
    obtain ⟨definition, hdefinition, h⟩ := exists_of_bind h
    cases h
    have hname : Exact (.record [("column", .text c.name)]) := .record (by simp) (by simp [Exact.text])
    refine .record (by simp) ?_
    simp [Exact.text, hname, exact_columnDefinition hdefinition]
  | constraint kind body =>
    cases h
    exact .record (by simp) (by simp [Exact.text])

/-- The name of a table. -/
theorem exact_tableName (t : TableName) : Exact (ofTableName t) := by
  refine .record (by simp) ?_
  by_cases hdatabase : t.database = ""
  · simp [hdatabase, Exact.text, Exact.null]
  · simp [hdatabase, Exact.text]

/-- **The record of a statement** is exact. -/
theorem exact_ofStatement {s : Statement} {v : Value} (h : ofStatement d s = .ok v) : Exact v := by
  have htable : ∀ t, Exact (.list [ofTableName t]) := fun t => .list (by simpa using exact_tableName t)
  unfold ofStatement at h
  obtain ⟨fields, hfields, h⟩ := exists_of_bind h
  cases h
  cases s with
  | use target =>
    cases hfields
    exact .record (by simp) (by simp [Exact.text, exact_ofText?])
  | create kind target items =>
    unfold fieldsOf at hfields
    dsimp only at hfields
    split at hfields
    · obtain ⟨vs, hitems, hfields⟩ := exists_of_bind hfields
      cases hfields
      have hlist : Exact (.list vs) := .list (forall_of_mapM (fun _ _ => exact_schemaItem) hitems)
      cases target with
      | none => exact .record (by simp [tableField]) (by simp [tableField, Exact.text, hlist])
      | some t => exact .record (by simp [tableField]) (by simp [tableField, Exact.text, hlist, htable])
    · cases hfields
      cases target with
      | none => exact .record (by simp) (by simp [Exact.text])
      | some t => exact .record (by simp) (by simp [Exact.text])
  | insert target rows =>
    cases hfields
    have hrows : ∀ rows : List (List Expr), Exact (.list (rows.map (ofRow d))) := by
      intro rows
      refine .list fun v hv => ?_
      obtain ⟨row, -, rfl⟩ := List.mem_map.mp hv
      exact exact_texts _
    cases target <;> cases rows <;>
      exact .record (by simp [tableField]) (by simp [tableField, Exact.text, htable, hrows])
  | raw keyword =>
    cases hfields
    exact .record (by simp) (by simp [Exact.text])
  | other key =>
    cases hfields
    exact .record (by simp) (by simp [Exact.text])

end Record

namespace Dump

open Script

/-- A record with its lines is exact, if it has no field for them. -/
theorem exact_withLines (l : LineRange) {v : Value} (h : Exact v) (hlacks : Lacks "loc" v) : Exact (withLines l v) := by
  have hlines : Exact (linesValue l) := .record (by simp) (by simp [Exact.int])
  cases h with
  | @record fields distinct values =>
    refine .record ?_ ?_
    · rw [List.map_append]
      refine List.nodup_append.mpr ⟨distinct, by simp, ?_⟩
      intro key hkey other hother
      obtain ⟨f, hf, rfl⟩ := List.mem_map.mp hkey
      have hloc : other = "loc" := by simpa using hother
      exact hloc ▸ hlacks f hf
    · intro f hf
      rcases List.mem_append.mp hf with hf | hf
      · exact values f hf
      · rw [List.mem_singleton] at hf
        exact hf ▸ hlines
  | null => exact .null
  | bool b => exact .bool b
  | int n => exact .int n
  | text s => exact .text s
  | list items => exact .list items

/-- A reading whose records are exact, apart from the lines. -/
def Reading.Keeps (r : Reading) : Prop := ∀ s v, r.convert s = .ok v → Exact v

variable {r : Reading} {strict : Bool}

theorem exact_convertAll (hlines : r.LeavesLines) (hexact : r.Keeps) (l : LineRange) {ss : List Sql.Statement}
    {vs : List Value} (h : r.convertAll l ss = .ok vs) : ∀ v ∈ vs, Exact v := by
  induction ss generalizing vs with
  | nil =>
    cases h
    simp
  | cons s ss ih =>
    unfold Reading.convertAll at h
    split at h
    · cases h
    · rename_i v hv
      split at h
      · cases h
      · rename_i us hus
        cases h
        exact List.forall_mem_cons.mpr ⟨exact_withLines l (hexact s v hv) (hlines s v hv), ih hus⟩

/-- **The records of fragments** are exact. -/
theorem exact_records (hlines : r.LeavesLines) (hexact : r.Keeps) {fs : List Fragment} {vs : List Value}
    (h : r.records strict fs = .ok vs) : ∀ v ∈ vs, Exact v := by
  induction fs generalizing vs with
  | nil =>
    cases h
    simp
  | cons f fs ih =>
    unfold Reading.records at h
    split at h
    · cases h
    · rename_i us hus
      split at h
      · cases h
      · rename_i ws hws
        cases h
        refine List.forall_mem_append.mpr ⟨?_, ih hws⟩
        unfold Reading.fragmentRecords at hus
        split at hus
        · exact exact_convertAll hlines hexact f.lines hus
        · split at hus
          · cases hus
          · cases hus
            have htext : Exact (.record [("type", .text "unparsed"), ("text", .text f.text)]) :=
              .record (by simp) (by simp [Exact.text])
            have hunparsed : Exact (unparsed f) := exact_withLines f.lines htext (by simp [Lacks])
            simpa using hunparsed

/-- **The records of a dump** are exact. -/
theorem exact_read {dialect : Option String} {dump : String} {vs : List Value}
    (h : Dump.read dialect strict dump = .ok vs) : Exact (.list vs) := by
  unfold Dump.read readFragments at h
  dsimp only at h
  split at h
  · rename_i d _
    exact .list (exact_records (leavesLines_ofDialect d) (fun _ _ => Record.exact_ofStatement) h)
  · split at h
    · cases h
      exact .list (by simp)
    · cases h

end Dump
end DumpSummary
