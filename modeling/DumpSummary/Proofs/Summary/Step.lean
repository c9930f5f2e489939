import DumpSummary.Summary.Fold

/-!
# What one record does to a summary

The fold decides what a record is by probing its fields.  Here that decision is taken once: a record uses a
database, creates a table, fills a table, or does nothing, and `Summary.after` is the state after it.  Everything
later about runs of the fold goes through `step_fst`, and everything about single tables goes through the
look-up lemmas of `declare` and `addRows`.

## Contents

* `usedDatabase?`, `createdTable?`, `filledTable?`: the database or table that a record is about;
* `Summary.after`: the state after a record, and `step_fst`, `run_fst`: it is what the fold computes;
* `run_append`, `analyze_list_append`: a run goes on where its first piece ended;
* `names_declare`, `table?_declare`, `names_addRows`, `table?_addRows`: the two operations through the names and
  the look-up;
* `Summary.Puts`: a summary with one table put in, as both operations do;
* `names_nodup_after`, `empty_notMem_names_run`: no record makes two tables of one name, and no run makes one without.
-/

namespace DumpSummary

/-! ## What a record is about -/

/-- The database that a `use` record names. -/
def usedDatabase? (v : Value) : Option String :=
  match v.field "type" with
  | .text "use" => (Reference.ofDatabase (v.field "db")).name?
  | _ => none

/-- The table that a `create` record of a table names. -/
def createdTable? (v : Value) : Option String :=
  match v.field "type", v.field "keyword" with
  | .text "create", .text "table" => (Reference.ofTable (v.field "table")).name?
  | _, _ => none

/-- The table that an `insert` record names. -/
def filledTable? (v : Value) : Option String :=
  match v.field "type" with
  | .text "insert" => (Reference.ofTable (v.field "table")).name?
  | _ => none

/-- The columns that a record lists for the table it creates. -/
def createdColumns (v : Value) : List Column := columnsOf (v.field "create_definitions")

/-- The rows that a record adds to the table it fills. -/
def filledRows (v : Value) : Nat := rowCount (v.field "values")

/-! ## A record is about one thing only -/

/-- A record that creates a table has both of its marks. -/
theorem createdTable?_eq_none {v : Value} (h : v.field "type" ≠ .text "create" ∨ v.field "keyword" ≠ .text "table") :
    createdTable? v = none := by
  unfold createdTable?
  split
  · rename_i ht hk
    exact absurd hk (h.resolve_left (fun hne => hne ht))
  · rfl

theorem createdTable?_of_usedDatabase? {v : Value} {d : String} (h : usedDatabase? v = some d) :
    createdTable? v = none := by
  unfold usedDatabase? at h
  split at h
  · rename_i ht
    exact createdTable?_eq_none (Or.inl (by simp [ht]))
  · cases h

theorem filledTable?_of_usedDatabase? {v : Value} {d : String} (h : usedDatabase? v = some d) :
    filledTable? v = none := by
  unfold usedDatabase? at h
  split at h
  · rename_i ht
    simp [filledTable?, ht]
  · cases h

theorem filledTable?_of_createdTable? {v : Value} {n : String} (h : createdTable? v = some n) :
    filledTable? v = none := by
  unfold createdTable? at h
  split at h
  · rename_i ht _
    simp [filledTable?, ht]
  · cases h

/-! ## Values that count as absent name nothing -/

/-- Whatever names a table counts as present, so the test for presence never hides a name. -/
theorem isTruthy_of_ofTable {v : Value} {n : String} (h : Reference.ofTable v = .named n) :
    v.isTruthy = true := by
  cases v with
  | null => cases h
  | bool b => cases h
  | int i => cases h
  | float x => cases h
  | text s =>
    by_cases hs : s = ""
    · simp [Reference.ofTable, Reference.ofText, hs] at h
    · simp [Value.isTruthy, hs]
  | list items =>
    cases items with
    | nil => cases h
    | cons v vs => rfl
  | record fields =>
    cases fields with
    | nil => cases h
    | cons f fs => rfl

/-- Whatever names a database counts as present. -/
theorem isTruthy_of_ofDatabase {v : Value} {n : String} (h : Reference.ofDatabase v = .named n) :
    v.isTruthy = true := by
  cases v with
  | record fields =>
    cases fields with
    | nil => cases h
    | cons f fs => rfl
  | _ => exact isTruthy_of_ofTable h

/-! ## Located names are not empty -/

theorem ne_empty_of_ofText {s n : String} (h : Reference.ofText s = .named n) : n ≠ "" := by
  unfold Reference.ofText at h
  split at h
  · cases h
  · rename_i hs
    injection h with hn
    exact hn ▸ hs

theorem ne_empty_of_ofTableObject {v : Value} {n : String} (h : Reference.ofTableObject v = .named n) : n ≠ "" := by
  unfold Reference.ofTableObject at h
  split at h
  · exact ne_empty_of_ofText h
  · split at h
    · exact ne_empty_of_ofText h
    · cases h

theorem ne_empty_of_ofTable {v : Value} {n : String} (h : Reference.ofTable v = .named n) : n ≠ "" := by
  unfold Reference.ofTable at h
  split at h
  · exact ne_empty_of_ofText h
  · cases h
  · exact ne_empty_of_ofText h
  · exact ne_empty_of_ofTableObject h
  · exact ne_empty_of_ofTableObject h

theorem createdTable?_ne_empty {v : Value} {n : String} (h : createdTable? v = some n) : n ≠ "" := by
  unfold createdTable? at h
  split at h
  · cases hr : Reference.ofTable (v.field "table") with
    | named m =>
      rw [hr] at h
      injection h with hm
      exact hm ▸ ne_empty_of_ofTable hr
    | unrecognized => rw [hr] at h; cases h
  · cases h

/-! ## The state after a record -/

namespace Summary

/-- The state after a record: a database is chosen, a table is declared, rows are added, or nothing changes. -/
def after (s : Summary) (v : Value) : Summary :=
  match usedDatabase? v, createdTable? v, filledTable? v with
  | some d, _, _ => { s with database := some d }
  | none, some n, _ => s.declare n (createdColumns v)
  | none, none, some n => s.addRows n (filledRows v)
  | none, none, none => s

theorem after_of_usedDatabase? {v : Value} {d : String} (h : usedDatabase? v = some d) (s : Summary) :
    s.after v = { s with database := some d } := by
  simp only [after, h]

theorem after_of_createdTable? {v : Value} {n : String} (h : createdTable? v = some n) (s : Summary) :
    s.after v = s.declare n (createdColumns v) := by
  cases hu : usedDatabase? v with
  | some d => rw [createdTable?_of_usedDatabase? hu] at h; cases h
  | none => simp only [after, hu, h]

theorem after_of_filledTable? {v : Value} {n : String} (h : filledTable? v = some n) (s : Summary) :
    s.after v = s.addRows n (filledRows v) := by
  cases hu : usedDatabase? v with
  | some d => rw [filledTable?_of_usedDatabase? hu] at h; cases h
  | none =>
    cases hc : createdTable? v with
    | some m => rw [filledTable?_of_createdTable? hc] at h; cases h
    | none => simp only [after, hu, hc, h]

theorem after_of_none {v : Value} (hu : usedDatabase? v = none) (hc : createdTable? v = none)
    (hf : filledTable? v = none) (s : Summary) : s.after v = s := by
  simp only [after, hu, hc, hf]

/-- Rows for a table that is not declared are lost. -/
theorem addRows_of_not_declares {s : Summary} {n : String} (h : s.declares n = false) (k : Nat) :
    s.addRows n k = s := by
  have hne : ∀ t ∈ s.tables, t.name ≠ n := by
    simpa [declares, List.any_eq_false] using h
  have hmap : (s.tables.map fun t => if t.name = n then { t with rows := t.rows + k } else t) = s.tables := by
    refine (List.map_congr_left fun t ht => ?_).trans (List.map_id' s.tables)
    rw [if_neg (hne t ht)]
  simp only [addRows, hmap]

theorem applyUse_fst (s : Summary) (v : Value) :
    (s.applyUse v).1 = match (Reference.ofDatabase (v.field "db")).name? with
      | some d => { s with database := some d }
      | none => s := by
  unfold applyUse
  -- a target that is falsy is passed over without a look, but it would have named nothing
  by_cases ht : (v.field "db").isTruthy = true
  · simp only [ht, Bool.not_true, Bool.false_eq_true, if_false]
    cases Reference.ofDatabase (v.field "db") <;> rfl
  · cases hd : Reference.ofDatabase (v.field "db") with
    | named d => exact absurd (isTruthy_of_ofDatabase hd) ht
    | unrecognized => simp [ht, Reference.name?]

theorem applyCreate_fst (s : Summary) {v : Value} (hk : v.field "keyword" = .text "table") :
    (s.applyCreate v).1 = match (Reference.ofTable (v.field "table")).name? with
      | some n => s.declare n (createdColumns v)
      | none => s := by
  unfold applyCreate
  rw [hk]
  by_cases ht : (v.field "table").isTruthy = true
  · simp only [ht, Bool.not_true, Bool.false_eq_true, if_false]
    cases Reference.ofTable (v.field "table") <;> rfl
  · cases hd : Reference.ofTable (v.field "table") with
    | named n => exact absurd (isTruthy_of_ofTable hd) ht
    | unrecognized => simp [ht, Reference.name?]

theorem applyInsert_fst (s : Summary) (v : Value) :
    (s.applyInsert v).1 = match (Reference.ofTable (v.field "table")).name? with
      | some n => s.addRows n (filledRows v)
      | none => s := by
  unfold applyInsert
  by_cases ht : (v.field "table").isTruthy = true
  · simp only [ht, Bool.not_true, Bool.false_eq_true, if_false]
    cases Reference.ofTable (v.field "table") with
    | named n =>
      -- without a declaration the rows are dropped, as adding them to no table does
      cases hn : s.declares n with
      | true => simp [hn, Reference.name?, filledRows]
      | false => simp [hn, Reference.name?, addRows_of_not_declares hn]
    | unrecognized => rfl
  · cases hd : Reference.ofTable (v.field "table") with
    | named n => exact absurd (isTruthy_of_ofTable hd) ht
    | unrecognized => simp [ht, Reference.name?]

/-- **One record.**  What the fold does with a record is what the record is about. -/
theorem apply_fst (s : Summary) (v : Value) : (s.apply v).1 = s.after v := by
  unfold apply after
  split
  · rename_i ht
    have hc : createdTable? v = none := createdTable?_eq_none (Or.inl (by simp [ht]))
    have hf : filledTable? v = none := by simp [filledTable?, ht]
    rw [applyUse_fst, hc, hf]
    simp only [usedDatabase?, ht]
    cases (Reference.ofDatabase (v.field "db")).name? <;> rfl
  · rename_i ht
    have hu : usedDatabase? v = none := by simp [usedDatabase?, ht]
    have hf : filledTable? v = none := by simp [filledTable?, ht]
    by_cases hk : v.field "keyword" = .text "table"
    · rw [applyCreate_fst s hk, hu, hf]
      simp only [createdTable?, ht, hk]
      cases (Reference.ofTable (v.field "table")).name? <;> rfl
    · rw [createdTable?_eq_none (Or.inr hk), hu, hf]
      unfold applyCreate
      split
      · rename_i hk'
        exact absurd hk' hk
      · rfl
  · rename_i ht
    have hu : usedDatabase? v = none := by simp [usedDatabase?, ht]
    have hc : createdTable? v = none := createdTable?_eq_none (Or.inl (by simp [ht]))
    rw [applyInsert_fst, hu, hc]
    simp only [filledTable?, ht]
    cases (Reference.ofTable (v.field "table")).name? <;> rfl
  · rename_i hu hc hi
    have hu' : usedDatabase? v = none := by
      unfold usedDatabase?
      split
      · rename_i ht
        exact absurd ht hu
      · rfl
    have hf : filledTable? v = none := by
      unfold filledTable?
      split
      · rename_i ht
        exact absurd ht hi
      · rfl
    rw [hu', createdTable?_eq_none (Or.inl hc), hf]

/-- A value that is no record is about nothing. -/
theorem after_of_not_isRecord {v : Value} (h : v.isRecord = false) (s : Summary) : s.after v = s := by
  have ht : v.field "type" = .null := Value.field_of_isRecord_eq_false h "type"
  simp [after, usedDatabase?, createdTable?, filledTable?, ht]

/-- One item of a list of statements, record or not. -/
theorem step_fst (s : Summary) (index : Nat) (v : Value) : (s.step index v).1 = s.after v := by
  unfold step
  by_cases h : v.isRecord = true
  · rw [if_pos h, apply_fst]
  · rw [if_neg h, after_of_not_isRecord (by simpa using h)]

/-- **A run.**  The summary of a list is reached record by record; the places only number the notices. -/
theorem run_fst (s : Summary) (index : Nat) (vs : List Value) : (s.run index vs).1 = vs.foldl after s := by
  induction vs generalizing s index with
  | nil => rfl
  | cons v vs ih =>
    show ((s.step index v).1.run (index + 1) vs).1 = vs.foldl after (s.after v)
    rw [ih, step_fst]

/-- A run goes on where its first piece ended; the notices of the pieces stand one behind the other. -/
theorem run_append (s : Summary) (index : Nat) (vs ws : List Value) :
    s.run index (vs ++ ws) =
      (((s.run index vs).1.run (index + vs.length) ws).1,
        (s.run index vs).2 ++ ((s.run index vs).1.run (index + vs.length) ws).2) := by
  induction vs generalizing s index with
  | nil => rfl
  | cons v vs ih =>
    have hrest := ih (s.step index v).1 (index + 1)
    have hplace : index + 1 + vs.length = index + (v :: vs).length := by
      rw [List.length_cons]
      omega
    rw [hplace] at hrest
    show (((s.step index v).1.run (index + 1) (vs ++ ws)).1,
      (s.step index v).2.toList ++ ((s.step index v).1.run (index + 1) (vs ++ ws)).2) = _
    rw [hrest, ← List.append_assoc]
    rfl

/-! ## The operations through the names and the look-up -/

/-- The names of the tables, in order. -/
def names (s : Summary) : List String := s.tables.map Table.name

theorem declares_iff {s : Summary} {n : String} : s.declares n = true ↔ n ∈ s.names := by
  simp [declares, names]

/-- A declaration keeps the place of a table that is there and puts a new one at the end. -/
theorem names_declare (s : Summary) (n : String) (cs : List Column) :
    (s.declare n cs).names = if n ∈ s.names then s.names else s.names ++ [n] := by
  unfold declare
  by_cases h : s.declares n = true
  · rw [if_pos h, if_pos (declares_iff.mp h)]
    simp only [names, List.map_map]
    refine List.map_congr_left fun t _ => ?_
    by_cases ht : t.name = n <;> simp [ht]
  · rw [if_neg h, if_neg (fun hn => h (declares_iff.mpr hn))]
    simp [names]

/-- Rows do not touch the names. -/
theorem names_addRows (s : Summary) (n : String) (k : Nat) : (s.addRows n k).names = s.names := by
  simp only [addRows, names, List.map_map]
  refine List.map_congr_left fun t _ => ?_
  by_cases ht : t.name = n <;> simp [ht]

/-- A table is found exactly if its name is among the names. -/
theorem table?_isSome_iff {s : Summary} {n : String} : (s.table? n).isSome = true ↔ n ∈ s.names := by
  simp [table?, names, List.find?_isSome]

/-- A table that is found has the name it was looked up by. -/
theorem name_of_table? {s : Summary} {n : String} {t : Table} (h : s.table? n = some t) : t.name = n := by
  simpa using List.find?_some h

/-- Looking up a table after all tables were changed without renaming them. -/
theorem find?_map_of_name {f : Table → Table} (hf : ∀ t, (f t).name = t.name) (ts : List Table) (n : String) :
    (ts.map f).find? (·.name == n) = (ts.find? (·.name == n)).map f := by
  rw [List.find?_map]
  congr 2
  funext t
  simp [hf]

/-- A declared table is found with its new columns and no rows; every other table is found as before. -/
theorem table?_declare (s : Summary) (n m : String) (cs : List Column) :
    (s.declare n cs).table? m = if m = n then some ⟨n, cs, 0⟩ else s.table? m := by
  unfold declare
  by_cases h : s.declares n = true
  · rw [if_pos h]
    show (s.tables.map _).find? _ = _
    rw [find?_map_of_name (fun t => by by_cases ht : t.name = n <;> simp [ht])]
    change (s.table? m).map _ = _
    by_cases hm : m = n
    · subst hm
      obtain ⟨t, ht⟩ := Option.isSome_iff_exists.mp (table?_isSome_iff.mpr (declares_iff.mp h))
      simp [ht, name_of_table? ht]
    · rw [if_neg hm]
      cases ht : s.table? m with
      | none => rfl
      | some t => simp [name_of_table? ht, hm]
  · rw [if_neg h]
    show (s.tables ++ [_]).find? _ = _
    rw [List.find?_append]
    change (s.table? m).or _ = _
    by_cases hm : m = n
    · subst hm
      have hnone : s.table? m = none := by
        rw [← Option.not_isSome_iff_eq_none, table?_isSome_iff]
        exact fun hn => h (declares_iff.mpr hn)
      simp [hnone]
    · have hnm : ¬ n = m := fun he => hm he.symm
      simp [hm, hnm]

/-- Rows are added to the table of that name; every other table is found as before. -/
theorem table?_addRows (s : Summary) (n m : String) (k : Nat) :
    (s.addRows n k).table? m =
      if m = n then (s.table? m).map fun t => { t with rows := t.rows + k } else s.table? m := by
  show (s.tables.map _).find? _ = _
  rw [find?_map_of_name (fun t => by by_cases ht : t.name = n <;> simp [ht])]
  change (s.table? m).map _ = _
  cases ht : s.table? m with
  | none => simp
  | some t =>
    have hname := name_of_table? ht
    by_cases hm : m = n <;> simp [hname, hm]

/-! ## One table put into a summary -/

/-- `s'` is `s` with a table put in place of the one of that name, or at the end if there is none. -/
structure Puts (s : Summary) (t : Table) (s' : Summary) : Prop where
  /-- The table is found by its name. -/
  found : s'.table? t.name = some t
  /-- Every other name finds what it found. -/
  others : ∀ n, n ≠ t.name → s'.table? n = s.table? n
  /-- The names keep their order; a new one is the last. -/
  order : s'.names = if t.name ∈ s.names then s.names else s.names ++ [t.name]
  /-- The database is the same. -/
  database : s'.database = s.database

theorem puts_declare (s : Summary) (n : String) (cs : List Column) : s.Puts ⟨n, cs, 0⟩ (s.declare n cs) where
  found := by rw [table?_declare, if_pos rfl]
  others m hm := by rw [table?_declare, if_neg hm]
  order := names_declare s n cs
  database := by
    unfold declare
    split <;> rfl

theorem puts_addRows {s : Summary} {n : String} {t : Table} (h : s.table? n = some t) (k : Nat) :
    s.Puts { t with rows := t.rows + k } (s.addRows n k) where
  found := by
    obtain rfl : t.name = n := name_of_table? h
    show (s.addRows t.name k).table? t.name = some { t with rows := t.rows + k }
    rw [table?_addRows, if_pos rfl, h]
    rfl
  others m hm := by
    have hne : m ≠ n := fun he => hm (he.trans (name_of_table? h).symm)
    rw [table?_addRows, if_neg hne]
  order := by
    have hmem : t.name ∈ s.names := by
      rw [name_of_table? h]
      exact table?_isSome_iff.mp (by rw [h]; rfl)
    show (s.addRows n k).names = if t.name ∈ s.names then s.names else s.names ++ [t.name]
    rw [names_addRows, if_pos hmem]
  database := rfl

/-! ## Names are never repeated and never empty -/

theorem names_nodup_after {s : Summary} (h : s.names.Nodup) (v : Value) : (s.after v).names.Nodup := by
  unfold after
  split
  · exact h
  · rename_i n _ _
    rw [names_declare]
    by_cases hn : n ∈ s.names
    · rwa [if_pos hn]
    · rw [if_neg hn]
      exact List.nodup_append.mpr ⟨h, by simp, fun a ha b hb => by
        rw [List.mem_singleton.mp hb]; exact fun he => hn (he ▸ ha)⟩
  · rw [names_addRows]; exact h
  · exact h

theorem empty_notMem_names_after {s : Summary} (h : "" ∉ s.names) (v : Value) : "" ∉ (s.after v).names := by
  unfold after
  split
  · exact h
  · rename_i n _ hc
    have hn : "" ≠ n := fun he => createdTable?_ne_empty hc he.symm
    rw [names_declare]
    split
    · exact h
    · simpa [hn] using h
  · rw [names_addRows]; exact h
  · exact h

/-- **No table is without a name**, after any run from a summary in which none is. -/
theorem empty_notMem_names_run {s : Summary} (h : "" ∉ s.names) (index : Nat) (vs : List Value) :
    "" ∉ (s.run index vs).1.names := by
  rw [run_fst]
  induction vs generalizing s with
  | nil => exact h
  | cons v vs ih => exact ih (empty_notMem_names_after h v)

end Summary

/-! ## A list in two pieces -/

/-- **A list in two pieces.**  The second piece is folded from the summary of the first one. -/
theorem analyze_list_append (vs ws : List Value) :
    analyze (.list (vs ++ ws)) =
      (((analyze (.list vs)).1.run vs.length ws).1,
        (analyze (.list vs)).2 ++ ((analyze (.list vs)).1.run vs.length ws).2) := by
  have hrun := Summary.run_append .empty 0 vs ws
  rw [Nat.zero_add] at hrun
  exact hrun

/-- The summary of two pieces does not depend on the place where they meet. -/
theorem analyze_list_append_fst (vs ws : List Value) :
    (analyze (.list (vs ++ ws))).1 = ws.foldl Summary.after (analyze (.list vs)).1 := by
  rw [analyze_list_append]
  exact Summary.run_fst _ _ _

end DumpSummary
