import DumpSummary.Proofs.Summary.Reorder
import Mathlib.Data.List.Nodup

/-!
# The tables kept in two dictionaries

The state of the fold may be kept in two dictionaries instead of a list of tables: one from the names of the tables to
their columns, one from the same names to their rows.  Then a row count has to be looked up where rows are added and
where the tables are put together, and a look-up of a key that is not there fails.  Nothing but the fold itself keeps
the dictionaries in step.

It does: from the start, every run of the fold leaves them with the same keys in the same order, so every look-up
succeeds and what is put together is the summary.  The argument is a simulation.  `Dictionaries.ofSummary` is a summary
taken apart; each kind of record does to it what it does to the summary, so one statement does, and so does a run.

So the dictionaries hide nothing: lists of statements with the same summary leave the same dictionaries behind, and have
the same summary again when both go on in the same way.  A dump can be folded piece by piece, and all that has to be kept
of the pieces behind is their summary.

## Contents

* `Dict`, `Dict.get`, `Dict.set`: dictionaries in the order of their keys' first entry;
* `Dictionaries.applyUse`, `Dictionaries.applyCreate`, `Dictionaries.applyInsert`, `Dictionaries.after`: one statement;
* `Dictionaries.run`, `Dictionaries.build`, `Dictionaries.analyze`: the fold over them;
* `Dictionaries.InStep`: what holds of them after every run;
* `Summary.Proper`, `Proper.after`, `Proper.foldl`: the same of summaries;
* `apply_ofSummary`, `after_ofSummary`, `run_ofSummary`, `build_ofSummary`: the simulation;
* `run_append`, `run_eq_ofSummary`: a run in two pieces, and what a run leaves behind;
* `dictionaries_in_step`: **no look-up fails**;
* `analyze_list_pieces`: **the summary determines all that follows.**
-/

namespace DumpSummary

/-! ## Dictionaries -/

/-- A key was looked up that is not there. -/
structure MissingKey where
  /-- The key. -/
  key : String
  deriving DecidableEq, Repr

/-- The entries of a dictionary, in the order in which their keys were first set. -/
abbrev Dict (β : Type) := List (String × β)

namespace Dict

variable {β : Type}

/-- The keys in order. -/
def keys (d : Dict β) : List String := d.map Prod.fst

/-- The value of a key that has to be there. -/
def get (d : Dict β) (key : String) : Except MissingKey β :=
  match d.find? (·.1 == key) with
  | some entry => .ok entry.2
  | none => .error ⟨key⟩

/-- Sets the value of a key; a key that is there keeps its place. -/
def set (d : Dict β) (key : String) (value : β) : Dict β :=
  if key ∈ d.keys then d.map fun entry => if entry.1 = key then (key, value) else entry else d ++ [(key, value)]

end Dict

/-- The database, and the columns and rows of the tables by their names. -/
structure Dictionaries where
  /-- The database in use. -/
  database : Option String
  /-- The columns of each table. -/
  columns : Dict (List Column)
  /-- The rows of each table. -/
  rows : Dict Int

namespace Dictionaries

/-! ## The fold -/

/-- Before the first statement. -/
def empty : Dictionaries := ⟨none, [], []⟩

/-- Declares a table: both dictionaries get an entry. -/
def declare (b : Dictionaries) (name : String) (columns : List Column) : Dictionaries :=
  { b with columns := b.columns.set name columns, rows := b.rows.set name 0 }

/-- Adds rows to a table; the rows for a table that has no entry are lost. -/
def addRows (b : Dictionaries) (name : String) (n : Nat) : Except MissingKey Dictionaries :=
  if name ∈ b.rows.keys then do
    let old ← b.rows.get name
    return { b with rows := b.rows.set name (old + n) }
  else return b

/-- A `use` record. -/
def applyUse (b : Dictionaries) (r : Value) : Dictionaries :=
  let target := r.field "db"
  if !target.isTruthy then b
  else match Reference.ofDatabase target with
    | .named name => { b with database := some name }
    | .unrecognized => b

/-- A `create` record. -/
def applyCreate (b : Dictionaries) (r : Value) : Dictionaries :=
  match r.field "keyword" with
  | .text "table" =>
    if !(r.field "table").isTruthy then b
    else match Reference.ofTable (r.field "table") with
      | .named name => b.declare name (columnsOf (r.field "create_definitions"))
      | .unrecognized => b
  | _ => b

/-- An `insert` record. -/
def applyInsert (b : Dictionaries) (r : Value) : Except MissingKey Dictionaries :=
  if !(r.field "table").isTruthy then return b
  else match Reference.ofTable (r.field "table") with
    | .named name => b.addRows name (rowCount (r.field "values"))
    | .unrecognized => return b

/-- One record. -/
def apply (b : Dictionaries) (r : Value) : Except MissingKey Dictionaries :=
  match r.field "type" with
  | .text "use" => return b.applyUse r
  | .text "create" => return b.applyCreate r
  | .text "insert" => b.applyInsert r
  | _ => return b

/-- One item of a list of statements; what is no record is passed over. -/
def after (b : Dictionaries) (v : Value) : Except MissingKey Dictionaries :=
  if v.isRecord then b.apply v else return b

/-- A list of statements. -/
def run (b : Dictionaries) (vs : List Value) : Except MissingKey Dictionaries := vs.foldlM after b

/-- Puts the tables together: the rows of each one are looked up by its name. -/
def build (b : Dictionaries) : Except MissingKey Summary := do
  let tables ← b.columns.mapM fun entry => do
    let rows ← b.rows.get entry.1
    return ⟨entry.1, entry.2, rows⟩
  return ⟨b.database, tables⟩

/-- The summary of a list of statements or of a single record. -/
def analyze : Value → Except MissingKey Summary
  | .list vs => do (← empty.run vs).build
  | .record fields => do (← empty.run [.record fields]).build
  | _ => return .empty

/-- What holds of the dictionaries after every run. -/
structure InStep (b : Dictionaries) : Prop where
  /-- They have the same keys in the same order. -/
  keys : b.columns.keys = b.rows.keys
  /-- No key stands twice. -/
  nodup : b.columns.keys.Nodup
  /-- No key is empty. -/
  named : "" ∉ b.columns.keys
  /-- No table has fewer rows than none. -/
  counted : ∀ entry ∈ b.rows, 0 ≤ entry.2
  /-- A database that is used has a name. -/
  database : b.database ≠ some ""

end Dictionaries

/-! ## Summaries after a run -/

theorem ne_empty_of_ofDatabase {v : Value} {n : String} (h : Reference.ofDatabase v = .named n) : n ≠ "" := by
  unfold Reference.ofDatabase at h
  split at h
  · exact ne_empty_of_ofText h
  · exact ne_empty_of_ofTable h

theorem usedDatabase?_ne_empty {v : Value} {d : String} (h : usedDatabase? v = some d) : d ≠ "" := by
  unfold usedDatabase? at h
  split at h
  · cases hr : Reference.ofDatabase (v.field "db") with
    | named n =>
      rw [hr] at h
      injection h with hn
      exact hn ▸ ne_empty_of_ofDatabase hr
    | unrecognized => rw [hr] at h; cases h
  · cases h

namespace Summary

/-- What holds of a summary after every run. -/
structure Proper (s : Summary) : Prop where
  /-- No two tables share a name. -/
  nodup : s.names.Nodup
  /-- No table is without a name. -/
  named : "" ∉ s.names
  /-- No table has fewer rows than none. -/
  counted : ∀ t ∈ s.tables, 0 ≤ t.rows
  /-- A database that is used has a name. -/
  database : s.database ≠ some ""

variable {s : Summary}

theorem proper_empty : empty.Proper where
  nodup := List.nodup_nil
  named := List.not_mem_nil
  counted _ ht := (List.not_mem_nil ht).elim
  database := by simp [empty]

theorem counted_declare (h : ∀ t ∈ s.tables, 0 ≤ t.rows) (n : String) (cs : List Column) :
    ∀ t ∈ (s.declare n cs).tables, 0 ≤ t.rows := by
  intro t ht
  unfold declare at ht
  split at ht
  · obtain ⟨u, hu, rfl⟩ := List.mem_map.mp ht
    split
    · exact Int.le_refl 0
    · exact h u hu
  · rcases List.mem_append.mp ht with ht | ht
    · exact h t ht
    · obtain rfl := List.mem_singleton.mp ht
      exact Int.le_refl 0

theorem counted_addRows (h : ∀ t ∈ s.tables, 0 ≤ t.rows) (n : String) (k : Nat) :
    ∀ t ∈ (s.addRows n k).tables, 0 ≤ t.rows := by
  intro t ht
  obtain ⟨u, hu, rfl⟩ := List.mem_map.mp ht
  have hrows := h u hu
  split
  · show 0 ≤ u.rows + (k : Int)
    omega
  · exact hrows

/-- **One statement** leaves a proper summary proper. -/
theorem Proper.after (h : s.Proper) (v : Value) : (s.after v).Proper := by
  refine ⟨names_nodup_after h.nodup v, empty_notMem_names_after h.named v, ?_, ?_⟩
  · unfold Summary.after
    split
    · exact h.counted
    · exact counted_declare h.counted _ _
    · exact counted_addRows h.counted _ _
    · exact h.counted
  · unfold Summary.after
    split
    · rename_i d _ _ hu
      intro he
      exact usedDatabase?_ne_empty hu (Option.some.inj he)
    · rw [(puts_declare s _ _).database]
      exact h.database
    · exact h.database
    · exact h.database

/-- **A run** leaves a proper summary proper. -/
theorem Proper.foldl (h : s.Proper) (vs : List Value) : (vs.foldl Summary.after s).Proper := by
  induction vs generalizing s with
  | nil => exact h
  | cons v vs ih => exact ih (h.after v)

/-- Where no two tables share a name, a table is found by its name. -/
theorem table?_of_mem (h : s.names.Nodup) {t : Table} (ht : t ∈ s.tables) : s.table? t.name = some t := by
  obtain ⟨u, hu⟩ := Option.isSome_iff_exists.mp (table?_isSome_iff.mpr (List.mem_map_of_mem ht : t.name ∈ s.names))
  have hmem : u ∈ s.tables := List.mem_of_find?_eq_some hu
  have hsame : u = t := List.inj_on_of_nodup_map h hmem ht (name_of_table? hu)
  rw [hu, hsame]

end Summary

/-! ## A summary taken apart -/

namespace Dictionaries

/-- A property of the tables of a summary, by their names. -/
def entries {β : Type} (f : Table → β) (s : Summary) : Dict β := s.tables.map fun t => (t.name, f t)

/-- A summary as two dictionaries. -/
def ofSummary (s : Summary) : Dictionaries := ⟨s.database, entries Table.columns s, entries Table.rows s⟩

variable {β : Type} {s : Summary} {n : String}

theorem keys_entries (f : Table → β) (s : Summary) : (entries f s).keys = s.names := by
  unfold Dict.keys entries Summary.names
  rw [List.map_map]
  rfl

theorem get_entries (f : Table → β) {t : Table} (h : s.table? n = some t) : (entries f s).get n = .ok (f t) := by
  have hfind : (entries f s).find? (·.1 == n) = some (t.name, f t) := by
    unfold entries
    rw [List.find?_map]
    exact congrArg (Option.map fun t : Table => (t.name, f t)) h
  unfold Dict.get
  rw [hfind]

/-- A key is set where a table is declared. -/
theorem set_entries_declare (f : Table → β) (s : Summary) (n : String) (cs : List Column) :
    (entries f s).set n (f ⟨n, cs, 0⟩) = entries f (s.declare n cs) := by
  unfold Dict.set Summary.declare
  rw [keys_entries]
  by_cases hn : n ∈ s.names
  · rw [if_pos hn, if_pos (Summary.declares_iff.mpr hn)]
    unfold entries
    rw [List.map_map, List.map_map]
    refine List.map_congr_left fun t _ => ?_
    by_cases ht : t.name = n <;> simp [ht]
  · rw [if_neg hn, if_neg fun hd => hn (Summary.declares_iff.mp hd)]
    simp [entries]

/-- The rows of a table are set where rows are added to it. -/
theorem set_entries_addRows (hnodup : s.names.Nodup) {t : Table} (h : s.table? n = some t) (k : Nat) :
    (entries Table.rows s).set n (t.rows + k) = entries Table.rows (s.addRows n k) := by
  have hn : n ∈ s.names := Summary.table?_isSome_iff.mp (by rw [h]; rfl)
  unfold Dict.set Summary.addRows
  rw [keys_entries, if_pos hn]
  unfold entries
  rw [List.map_map, List.map_map]
  refine List.map_congr_left fun u hu => ?_
  by_cases hname : u.name = n
  · -- the only table of that name is the one that was found
    have hfound := Summary.table?_of_mem hnodup hu
    rw [hname, h] at hfound
    obtain rfl : t = u := Option.some.inj hfound
    simp [hname]
  · simp [hname]

/-- Rows do not touch the columns. -/
theorem entries_columns_addRows (s : Summary) (n : String) (k : Nat) :
    entries Table.columns (s.addRows n k) = entries Table.columns s := by
  unfold entries Summary.addRows
  rw [List.map_map]
  refine List.map_congr_left fun t _ => ?_
  by_cases ht : t.name = n <;> simp [ht]

/-! ## The simulation -/

theorem addRows_ofSummary (hnodup : s.names.Nodup) (n : String) (k : Nat) :
    (ofSummary s).addRows n k = .ok (ofSummary (s.addRows n k)) := by
  unfold addRows
  by_cases hn : n ∈ (ofSummary s).rows.keys
  · have hmem : n ∈ s.names := by
      have hkeys := keys_entries Table.rows s
      rwa [← hkeys]
    obtain ⟨t, ht⟩ := Option.isSome_iff_exists.mp (Summary.table?_isSome_iff.mpr hmem)
    have hget : (ofSummary s).rows.get n = .ok t.rows := get_entries Table.rows ht
    have hset : (ofSummary s).rows.set n (t.rows + k) = entries Table.rows (s.addRows n k) :=
      set_entries_addRows hnodup ht k
    rw [if_pos hn, hget]
    show Except.ok { ofSummary s with rows := (ofSummary s).rows.set n (t.rows + k) } = _
    rw [hset]
    unfold ofSummary
    rw [entries_columns_addRows]
    rfl
  · -- without an entry there is no table either, and adding rows to no table changes nothing
    have hdeclares : s.declares n = false := by
      rw [← Bool.not_eq_true, Summary.declares_iff, ← keys_entries Table.rows s]
      exact hn
    rw [if_neg hn, Summary.addRows_of_not_declares hdeclares]
    rfl

theorem declare_ofSummary (s : Summary) (n : String) (cs : List Column) :
    (ofSummary s).declare n cs = ofSummary (s.declare n cs) := by
  have hcolumns : (ofSummary s).columns.set n cs = entries Table.columns (s.declare n cs) :=
    set_entries_declare Table.columns s n cs
  have hrows : (ofSummary s).rows.set n 0 = entries Table.rows (s.declare n cs) :=
    set_entries_declare Table.rows s n cs
  unfold declare
  rw [hcolumns, hrows]
  unfold ofSummary
  rw [(Summary.puts_declare s n cs).database]

theorem applyUse_ofSummary (s : Summary) (v : Value) :
    (ofSummary s).applyUse v = ofSummary (s.applyUse v).1 := by
  unfold applyUse Summary.applyUse
  by_cases ht : (v.field "db").isTruthy = true
  · simp only [ht, Bool.not_true, Bool.false_eq_true, if_false]
    cases Reference.ofDatabase (v.field "db") <;> rfl
  · simp [ht]

theorem applyCreate_ofSummary (s : Summary) (v : Value) :
    (ofSummary s).applyCreate v = ofSummary (s.applyCreate v).1 := by
  unfold applyCreate Summary.applyCreate
  by_cases hk : v.field "keyword" = .text "table"
  · simp only [hk]
    by_cases ht : (v.field "table").isTruthy = true
    · simp only [ht, Bool.not_true, Bool.false_eq_true, if_false]
      cases Reference.ofTable (v.field "table") with
      | named n => exact declare_ofSummary s n _
      | unrecognized => rfl
    · simp [ht]
  · -- no other keyword has a branch of its own, in either fold
    simp only

theorem applyInsert_ofSummary (hnodup : s.names.Nodup) (v : Value) :
    (ofSummary s).applyInsert v = .ok (ofSummary (s.applyInsert v).1) := by
  unfold applyInsert Summary.applyInsert
  by_cases ht : (v.field "table").isTruthy = true
  · simp only [ht, Bool.not_true, Bool.false_eq_true, if_false]
    cases Reference.ofTable (v.field "table") with
    | named n =>
      have hadded := addRows_ofSummary hnodup n (rowCount (v.field "values"))
      cases hn : s.declares n with
      | true => simpa [hn] using hadded
      | false =>
        rw [Summary.addRows_of_not_declares hn] at hadded
        simpa [hn] using hadded
    | unrecognized => rfl
  · simp only [ht, Bool.not_false, if_true]
    rfl

/-- One record, told by the same field in the one fold and in the other. -/
theorem apply_ofSummary (hnodup : s.names.Nodup) (v : Value) :
    (ofSummary s).apply v = .ok (ofSummary (s.apply v).1) := by
  unfold apply Summary.apply
  by_cases hu : v.field "type" = .text "use"
  · simp only [hu, applyUse_ofSummary]
    rfl
  by_cases hc : v.field "type" = .text "create"
  · simp only [hc, applyCreate_ofSummary]
    rfl
  by_cases hi : v.field "type" = .text "insert"
  · simp only [hi, applyInsert_ofSummary hnodup]
  · -- nor has any other type
    simp only
    rfl

/-- **One statement** does to the dictionaries what it does to the summary. -/
theorem after_ofSummary (hnodup : s.names.Nodup) (v : Value) : (ofSummary s).after v = .ok (ofSummary (s.after v)) := by
  unfold after
  by_cases hrecord : v.isRecord = true
  · rw [if_pos hrecord, apply_ofSummary hnodup, Summary.apply_fst]
  · rw [if_neg hrecord, Summary.after_of_not_isRecord (by simpa using hrecord)]
    rfl

/-- **A run** does to the dictionaries what it does to the summary. -/
theorem run_ofSummary (hnodup : s.names.Nodup) (vs : List Value) :
    (ofSummary s).run vs = .ok (ofSummary (vs.foldl Summary.after s)) := by
  unfold run
  induction vs generalizing s with
  | nil => rfl
  | cons v vs ih =>
    rw [List.foldlM_cons, after_ofSummary hnodup]
    exact ih (Summary.names_nodup_after hnodup v)

/-- **The tables are put together** again: the rows of each one are found. -/
theorem build_ofSummary (hnodup : s.names.Nodup) : (ofSummary s).build = .ok s := by
  have htables : ∀ ts : List Table, (∀ t ∈ ts, t ∈ s.tables) →
      (ts.map fun t => (t.name, t.columns)).mapM (fun entry => do
        let rows ← (ofSummary s).rows.get entry.1
        return (⟨entry.1, entry.2, rows⟩ : Table)) = (Except.ok ts : Except MissingKey (List Table)) := by
    intro ts hts
    induction ts with
    | nil => rfl
    | cons t ts ih =>
      have hget : (ofSummary s).rows.get t.name = .ok t.rows :=
        get_entries Table.rows (Summary.table?_of_mem hnodup (hts t List.mem_cons_self))
      have hrest := ih fun u hu => hts u (List.mem_cons_of_mem t hu)
      rw [List.map_cons, List.mapM_cons, hget, hrest]
      rfl
  unfold build
  have hall := htables s.tables fun _ ht => ht
  show ((s.tables.map fun t => (t.name, t.columns)).mapM _ >>= _) = _
  rw [hall]
  rfl

theorem run_append (b : Dictionaries) (vs ws : List Value) : b.run (vs ++ ws) = b.run vs >>= fun b' => b'.run ws :=
  List.foldlM_append

/-- **What a run leaves behind** are the dictionaries of the summary. -/
theorem run_eq_ofSummary (vs : List Value) : empty.run vs = .ok (ofSummary (DumpSummary.analyze (.list vs)).1) := by
  show (ofSummary .empty).run vs = .ok (ofSummary (Summary.empty.run 0 vs).1)
  rw [run_ofSummary Summary.proper_empty.nodup, Summary.run_fst]

/-- A proper summary taken apart is in step. -/
theorem inStep_ofSummary (h : s.Proper) : (ofSummary s).InStep where
  keys := (keys_entries Table.columns s).trans (keys_entries Table.rows s).symm
  nodup := (keys_entries Table.columns s).symm ▸ h.nodup
  named := (keys_entries Table.columns s).symm ▸ h.named
  counted := by
    intro entry hentry
    obtain ⟨t, ht, rfl⟩ := List.mem_map.mp hentry
    exact h.counted t ht
  database := h.database

end Dictionaries

open Dictionaries in
/-- **No look-up fails.**  Every list of values can be folded over the dictionaries, and after it they have the same keys
in the same order, none twice and none empty, no row count below zero, and no database without a name; the tables can be
put together and are those of the summary.  So folding over the dictionaries has a result for every value, and the same
one as the fold over the summary. -/
theorem dictionaries_in_step :
    (∀ vs : List Value, ∃ b, empty.run vs = .ok b ∧ b.InStep ∧ b.build = .ok (DumpSummary.analyze (.list vs)).1) ∧
    ∀ v : Value, Dictionaries.analyze v = .ok (DumpSummary.analyze v).1 := by
  have hlist : ∀ vs : List Value, ∃ b, empty.run vs = .ok b ∧ b.InStep ∧
      b.build = .ok (Summary.empty.run 0 vs).1 := by
    intro vs
    have hrun := run_eq_ofSummary vs
    have hproper : (Summary.empty.run 0 vs).1.Proper := by
      rw [Summary.run_fst]
      exact Summary.proper_empty.foldl vs
    exact ⟨_, hrun, inStep_ofSummary hproper, build_ofSummary hproper.nodup⟩
  refine ⟨hlist, fun v => ?_⟩
  cases v with
  | list vs =>
    obtain ⟨b, hrun, _, hbuild⟩ := hlist vs
    show (empty.run vs >>= build) = _
    rw [hrun]
    exact hbuild
  | record fields =>
    obtain ⟨b, hrun, _, hbuild⟩ := hlist [.record fields]
    show (empty.run [.record fields] >>= build) = _
    rw [hrun]
    exact hbuild
  | _ => rfl

/-! ## What follows -/

open Dictionaries in
/-- **The summary determines all that follows.**  Two lists of values with the same summary leave the same dictionaries
behind, so nothing of the lists is kept that the summary does not show.  If both go on with the same values, then they
have the same summary again, folded in the one way and in the other. -/
theorem analyze_list_pieces {vs ws : List Value}
    (h : (DumpSummary.analyze (.list vs)).1 = (DumpSummary.analyze (.list ws)).1) :
    (∃ b, empty.run vs = .ok b ∧ empty.run ws = .ok b) ∧
    ∀ zs : List Value,
      (DumpSummary.analyze (.list (vs ++ zs))).1 = (DumpSummary.analyze (.list (ws ++ zs))).1 ∧
      Dictionaries.analyze (.list (vs ++ zs)) = Dictionaries.analyze (.list (ws ++ zs)) := by
  have hleft := run_eq_ofSummary vs
  have hright := run_eq_ofSummary ws
  rw [← h] at hright
  refine ⟨⟨_, hleft, hright⟩, fun zs => ⟨?_, ?_⟩⟩
  · rw [analyze_list_append_fst, analyze_list_append_fst, h]
  · show (empty.run (vs ++ zs) >>= build) = (empty.run (ws ++ zs) >>= build)
    rw [run_append, run_append, hleft, hright]

/-- A table that was filled and is created again is as if it had been created once, whatever follows. -/
theorem analyze_list_pieces_created_again :
    let vs := [insertion "b", creation "a", insertion "a", choice "x", creation "a"]
    let ws := [choice "x", creation "a"]
    (analyze (.list vs)).1 = (analyze (.list ws)).1 ∧
      (analyze (.list (vs ++ [insertion "a", insertion "b"]))).1
        = (analyze (.list (ws ++ [insertion "a", insertion "b"]))).1 := by
  intro vs ws
  have hsame : (analyze (.list vs)).1 = (analyze (.list ws)).1 := by decide +kernel
  obtain ⟨_, hfuture⟩ := analyze_list_pieces hsame
  exact ⟨hsame, (hfuture [insertion "a", insertion "b"]).1⟩

end DumpSummary
