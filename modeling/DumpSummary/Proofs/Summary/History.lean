import DumpSummary.Proofs.Summary.Step
import Mathlib.Algebra.GroupWithZero.Nat
import Mathlib.Data.List.DropRight
import Mathlib.Data.List.Induction

/-!
# The summary as a function of the history

A summary can be read off the list of statements without following the fold: the database is the last one used, a
table is there if it was ever created, it stands where it was created first, it has the columns it was created with
last, and its rows are those inserted since then.

## Contents

* `History.database`, `History.names`, `History.columns`, `History.rows`, `History.summary`: the summary, read off;
* `History.summary_append`: one more statement changes what is read off as it changes the state;
* `analyze_list_eq_history`: **the fold computes the summary of the history.**
-/

namespace DumpSummary

namespace History

/-- Whether a statement creates that table. -/
def creates (n : String) (v : Value) : Bool := createdTable? v == some n

/-- Whether a statement inserts into that table. -/
def fills (n : String) (v : Value) : Bool := filledTable? v == some n

/-- The target of the last statement that uses a database. -/
def database (vs : List Value) : Option String := (vs.filterMap usedDatabase?).getLast?

/-- The names of the tables that are created, each where it is created first. -/
def names (vs : List Value) : List String := (vs.filterMap createdTable?).eraseDups

/-- The place of the first statement that creates that table. -/
def firstCreation (vs : List Value) (n : String) : Nat := vs.findIdx (creates n)

/-- The columns that the last statement to create that table gives it. -/
def columns (vs : List Value) (n : String) : List Column :=
  (((vs.filter (creates n)).getLast?).map createdColumns).getD []

/-- The statements after the last one that creates that table. -/
def sinceCreation (vs : List Value) (n : String) : List Value := vs.rtakeWhile fun v => !creates n v

/-- The rows inserted into that table since it was created last. -/
def rows (vs : List Value) (n : String) : Nat := (((sinceCreation vs n).filter (fills n)).map filledRows).sum

/-- A table, read off. -/
def table (vs : List Value) (n : String) : Table := ⟨n, columns vs n, rows vs n⟩

/-- The summary, read off. -/
def summary (vs : List Value) : Summary := ⟨database vs, (names vs).map (table vs)⟩

/-! ## What is read off, one statement later -/

theorem mem_names {vs : List Value} {n : String} : n ∈ names vs ↔ ∃ v ∈ vs, createdTable? v = some n := by
  rw [names, List.mem_eraseDups, List.mem_filterMap]

theorem names_summary (vs : List Value) : (summary vs).names = names vs := by
  simp [Summary.names, summary, table, Function.comp_def]

theorem database_append (vs : List Value) (v : Value) :
    database (vs ++ [v]) = (usedDatabase? v).or (database vs) := by
  unfold database
  cases h : usedDatabase? v <;> simp [h]

/-- A name that is created again keeps its place. -/
theorem names_append (vs : List Value) (v : Value) :
    names (vs ++ [v]) = match createdTable? v with
      | some n => if n ∈ names vs then names vs else names vs ++ [n]
      | none => names vs := by
  cases h : createdTable? v with
  | none => simp [names, h]
  | some n =>
    have hrest : ∀ xs : List String, [n].removeAll xs = if n ∈ xs then [] else [n] := by
      intro xs
      by_cases hx : n ∈ xs <;> simp [List.removeAll, hx]
    simp only [names, List.filterMap_append, List.filterMap_cons, List.filterMap_nil, h, List.eraseDups_append,
      hrest, List.mem_eraseDups]
    by_cases hn : n ∈ vs.filterMap createdTable? <;> simp [hn, List.eraseDups_cons]

/-- Creating a table starts it anew; any other statement leaves its columns and may add to its rows. -/
theorem table_append (vs : List Value) (v : Value) (n : String) :
    table (vs ++ [v]) n =
      if createdTable? v = some n then ⟨n, createdColumns v, 0⟩
      else if filledTable? v = some n then { table vs n with rows := (table vs n).rows + filledRows v }
      else table vs n := by
  by_cases hc : createdTable? v = some n
  · simp [table, columns, rows, sinceCreation, creates, hc]
  · have hkeep : creates n v = false := by simp [creates, hc]
    have hcols : columns (vs ++ [v]) n = columns vs n := by simp [columns, hkeep]
    have hsince : sinceCreation (vs ++ [v]) n = sinceCreation vs n ++ [v] := by
      simp [sinceCreation, hkeep]
    rw [if_neg hc]
    by_cases hf : filledTable? v = some n
    · simp [table, hcols, rows, hsince, fills, hf]
    · simp [table, hcols, rows, hsince, fills, hf]

/-- The tables stay as they are when nothing is created or filled. -/
theorem table_append_of_none {v : Value} (hc : createdTable? v = none) (hf : filledTable? v = none)
    (vs : List Value) : table (vs ++ [v]) = table vs := by
  funext n
  rw [table_append, hc, hf]
  rfl

/-- **A creation** declares its table. -/
theorem summary_append_of_createdTable? {v : Value} {n : String} (hu : usedDatabase? v = none)
    (hc : createdTable? v = some n) (vs : List Value) :
    summary (vs ++ [v]) = (summary vs).declare n (createdColumns v) := by
  have hf := filledTable?_of_createdTable? hc
  have hdb : database (vs ++ [v]) = database vs := by rw [database_append, hu]; rfl
  unfold Summary.declare
  show Summary.mk _ _ = _
  rw [hdb, names_append, hc]
  by_cases hn : n ∈ names vs
  · -- the table keeps its place
    have hdecl : (summary vs).declares n = true := by rw [Summary.declares_iff, names_summary]; exact hn
    rw [if_pos hdecl]
    simp only [if_pos hn, summary, List.map_map, Summary.mk.injEq, true_and]
    refine List.map_congr_left fun m _ => ?_
    rw [table_append, hf, hc]
    by_cases hm : m = n
    · simp [table, hm]
    · simp [table, hm, Ne.symm hm]
  · -- the table comes last
    have hdecl : ¬ (summary vs).declares n = true := by rw [Summary.declares_iff, names_summary]; exact hn
    rw [if_neg hdecl]
    simp only [if_neg hn, summary, List.map_append, List.map_cons, List.map_nil, Summary.mk.injEq, true_and]
    refine congrArg₂ (· ++ ·) (List.map_congr_left fun m hm => ?_) ?_
    · have hne : n ≠ m := fun he => hn (he ▸ hm)
      rw [table_append, hf, hc]
      simp [hne]
    · rw [table_append, if_pos hc]

/-- **An insertion** adds its rows. -/
theorem summary_append_of_filledTable? {v : Value} {n : String} (hu : usedDatabase? v = none)
    (hc : createdTable? v = none) (hf : filledTable? v = some n) (vs : List Value) :
    summary (vs ++ [v]) = (summary vs).addRows n (filledRows v) := by
  have hdb : database (vs ++ [v]) = database vs := by rw [database_append, hu]; rfl
  have hnames : names (vs ++ [v]) = names vs := by rw [names_append, hc]
  show Summary.mk _ _ = _
  rw [hdb, hnames]
  simp only [Summary.addRows, summary, List.map_map, Summary.mk.injEq, true_and]
  refine List.map_congr_left fun m _ => ?_
  rw [table_append, hc, hf]
  by_cases hm : m = n
  · simp [table, hm]
  · simp [table, hm, Ne.symm hm]

/-- **One more statement.**  What is read off changes as the state does. -/
theorem summary_append (vs : List Value) (v : Value) : summary (vs ++ [v]) = (summary vs).after v := by
  cases hu : usedDatabase? v with
  | some d =>
    have hc := createdTable?_of_usedDatabase? hu
    have hf := filledTable?_of_usedDatabase? hu
    rw [Summary.after_of_usedDatabase? hu]
    show Summary.mk _ _ = Summary.mk _ _
    rw [database_append, hu, names_append, hc, table_append_of_none hc hf]
    rfl
  | none =>
    cases hc : createdTable? v with
    | some n => rw [Summary.after_of_createdTable? hc, summary_append_of_createdTable? hu hc]
    | none =>
      cases hf : filledTable? v with
      | some n => rw [Summary.after_of_filledTable? hf, summary_append_of_filledTable? hu hc hf]
      | none =>
        rw [Summary.after_of_none hu hc hf]
        show Summary.mk _ _ = summary vs
        rw [database_append, hu, names_append, hc, table_append_of_none hc hf]
        rfl

/-- **A run from the start** reaches the summary that is read off. -/
theorem run_empty (index : Nat) (vs : List Value) : (Summary.empty.run index vs).1 = summary vs := by
  rw [Summary.run_fst]
  induction vs using List.reverseRecOn with
  | nil => rfl
  | append_singleton vs v ih => rw [List.foldl_append, ih, summary_append]; rfl

/-! ## The order of the tables -/

/-- A table that is created has a first creation in the list. -/
theorem firstCreation_lt {vs : List Value} {n : String} (h : n ∈ names vs) :
    firstCreation vs n < vs.length := by
  obtain ⟨v, hv, hc⟩ := mem_names.mp h
  exact List.findIdx_lt_length_of_exists ⟨v, hv, by simp [creates, hc]⟩

/-- Later statements do not move the first creation. -/
theorem firstCreation_append {vs : List Value} {n : String} (h : n ∈ names vs) (ws : List Value) :
    firstCreation (vs ++ ws) n = firstCreation vs n := by
  have hlt := firstCreation_lt h
  unfold firstCreation at hlt ⊢
  rw [List.findIdx_append, if_pos hlt]

/-- **The tables stand in the order of their first creation**, and none stands twice. -/
theorem names_pairwise (vs : List Value) :
    (names vs).Pairwise fun m n => firstCreation vs m < firstCreation vs n := by
  induction vs using List.reverseRecOn with
  | nil => exact List.Pairwise.nil
  | append_singleton vs v ih =>
    have hkeep : (names vs).Pairwise fun m n => firstCreation (vs ++ [v]) m < firstCreation (vs ++ [v]) n := by
      refine ih.imp_of_mem fun hm hn hlt => ?_
      rwa [firstCreation_append hm, firstCreation_append hn]
    rw [names_append]
    cases hc : createdTable? v with
    | none => exact hkeep
    | some n =>
      show (if n ∈ names vs then names vs else names vs ++ [n]).Pairwise _
      by_cases hn : n ∈ names vs
      · rwa [if_pos hn]
      · -- the last statement is the first creation of the new name, behind all others
        have hnew : firstCreation (vs ++ [v]) n = vs.length := by
          have hnone : ∀ w ∈ vs, creates n w = false := fun w hw => by
            by_contra hcw
            exact hn (mem_names.mpr ⟨w, hw, by simpa [creates] using hcw⟩)
          have hlen : vs.findIdx (creates n) = vs.length := List.findIdx_eq_length.mpr hnone
          simp [firstCreation, List.findIdx_append, hlen, List.findIdx_cons, creates, hc]
        rw [if_neg hn, List.pairwise_append]
        refine ⟨hkeep, List.pairwise_singleton _ _, fun m hm k hk => ?_⟩
        rw [List.mem_singleton.mp hk, hnew, firstCreation_append hm]
        exact firstCreation_lt hm

/-- A table is found in what is read off exactly if it was ever created. -/
theorem table?_summary (vs : List Value) (n : String) :
    (summary vs).table? n = if n ∈ names vs then some (table vs n) else none := by
  have hfind : ∀ ns : List String,
      (ns.map (table vs)).find? (·.name == n) = if n ∈ ns then some (table vs n) else none := by
    intro ns
    induction ns with
    | nil => rfl
    | cons m ns ih =>
      by_cases hm : m = n
      · simp [hm, table]
      · have hmem : n ∈ m :: ns ↔ n ∈ ns := by simp [Ne.symm hm]
        rw [List.map_cons, List.find?_cons_of_neg (by simpa [table] using hm), ih]
        simp only [hmem]
  exact hfind (names vs)

end History

/-- **The fold computes the summary of the history.**  For every list of values: the database is the target of the
last statement that uses one; the tables are those ever created, in the order of their first creation, each with the
columns of its last creation and the rows inserted since; and looking up a table finds exactly that. -/
theorem analyze_list_eq_history (vs : List Value) :
    (analyze (.list vs)).1 = History.summary vs ∧
    (∀ n, n ∈ History.names vs ↔ ∃ v ∈ vs, createdTable? v = some n) ∧
    (History.names vs).Pairwise (fun m n => History.firstCreation vs m < History.firstCreation vs n) ∧
    ∀ n, (analyze (.list vs)).1.table? n =
      if n ∈ History.names vs then some (History.table vs n) else none := by
  have hrun : (analyze (.list vs)).1 = History.summary vs := History.run_empty 0 vs
  refine ⟨hrun, fun n => History.mem_names, History.names_pairwise vs, fun n => ?_⟩
  rw [hrun]
  exact History.table?_summary vs n

end DumpSummary
