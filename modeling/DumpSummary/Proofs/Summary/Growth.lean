import DumpSummary.Proofs.Summary.Reorder

/-!
# A summary grows

However a run goes on, the tables that are there stay, in their order, and new ones come behind them.  A table that is
not created again keeps its columns and gets the rows that are inserted into it; no other statement touches it.  The
database stays as long as no statement uses another one.

This is said of one statement first and then of all that follow, from any state of the fold, not only from the start.

## Contents

* `History.inserted`: the rows that some statements insert into a table;
* `names_prefix_after`, `database_after`, `table?_after`: one statement;
* `names_prefix_foldl`, `database_foldl`, `table?_foldl`: all that follow;
* `analyze_list_growth`: **a summary grows.**
-/

namespace DumpSummary

open History

/-- The rows that statements insert into a table. -/
def History.inserted (vs : List Value) (n : String) : Nat := ((vs.filter (fills n)).map filledRows).sum

/-- The rows of the first statement come on top of those of the others. -/
theorem inserted_cons (v : Value) (vs : List Value) (n : String) :
    inserted (v :: vs) n = inserted [v] n + inserted vs n := by
  unfold inserted
  by_cases h : fills n v = true
  · simp [h]
  · simp [h]

theorem inserted_singleton (v : Value) (n : String) :
    inserted [v] n = if filledTable? v = some n then filledRows v else 0 := by
  by_cases h : filledTable? v = some n <;> simp [inserted, fills, h]

namespace Summary

variable {n : String} {v : Value} {vs : List Value}

/-! ## One statement -/

theorem names_prefix_after (s : Summary) (v : Value) : s.names <+: (s.after v).names := by
  unfold after
  split
  · exact List.prefix_rfl
  · rename_i m _ _
    rw [names_declare]
    split
    · exact List.prefix_rfl
    · exact List.prefix_append s.names [m]
  · exact (names_addRows s _ _).symm ▸ List.prefix_rfl
  · exact List.prefix_rfl

theorem database_after (h : usedDatabase? v = none) (s : Summary) : (s.after v).database = s.database := by
  unfold after
  rw [h]
  split
  · contradiction
  · exact (puts_declare s _ _).database
  · rfl
  · rfl

/-- **One statement and one table**, if the statement does not create it: the columns stay, and the rows are those that
were there and those that the statement inserts. -/
theorem table?_after (h : createdTable? v ≠ some n) (s : Summary) :
    (s.after v).table? n = (s.table? n).map fun t => { t with rows := t.rows + inserted [v] n } := by
  -- a statement that inserts nothing into the table leaves it as it is
  have hsame : inserted [v] n = 0 →
      s.table? n = (s.table? n).map fun t => { t with rows := t.rows + inserted [v] n } := by
    intro hzero
    rw [hzero]
    cases s.table? n <;> simp
  cases hu : usedDatabase? v with
  | some d =>
    rw [after_of_usedDatabase? hu]
    apply hsame
    rw [inserted_singleton, filledTable?_of_usedDatabase? hu]
    rfl
  | none =>
    cases hc : createdTable? v with
    | some m =>
      have hm : n ≠ m := fun he => h (by rw [hc, he])
      rw [after_of_createdTable? hc, table?_declare, if_neg hm]
      apply hsame
      rw [inserted_singleton, filledTable?_of_createdTable? hc]
      rfl
    | none =>
      cases hf : filledTable? v with
      | none =>
        rw [after_of_none hu hc hf]
        apply hsame
        rw [inserted_singleton, hf]
        rfl
      | some m =>
        rw [after_of_filledTable? hf, table?_addRows]
        by_cases hm : n = m
        · rw [if_pos hm, inserted_singleton, hf, hm, if_pos rfl]
        · rw [if_neg hm]
          apply hsame
          rw [inserted_singleton, hf, if_neg fun he => hm (Option.some.inj he).symm]

/-! ## All that follow -/

theorem names_prefix_foldl (s : Summary) (vs : List Value) : s.names <+: (vs.foldl after s).names := by
  induction vs generalizing s with
  | nil => exact List.prefix_rfl
  | cons v vs ih => exact (names_prefix_after s v).trans (ih (s.after v))

theorem database_foldl (h : ∀ v ∈ vs, usedDatabase? v = none) (s : Summary) :
    (vs.foldl after s).database = s.database := by
  induction vs generalizing s with
  | nil => rfl
  | cons v vs ih =>
    have hrest := ih (fun w hw => h w (List.mem_cons_of_mem v hw)) (s.after v)
    exact hrest.trans (database_after (h v List.mem_cons_self) s)

/-- **All statements that follow and one table**, if none of them creates it. -/
theorem table?_foldl (h : ∀ v ∈ vs, createdTable? v ≠ some n) (s : Summary) :
    (vs.foldl after s).table? n = (s.table? n).map fun t => { t with rows := t.rows + inserted vs n } := by
  induction vs generalizing s with
  | nil => cases hs : s.table? n <;> simp [inserted, hs]
  | cons v vs ih =>
    rw [List.foldl_cons, ih fun w hw => h w (List.mem_cons_of_mem v hw), table?_after (h v List.mem_cons_self),
      inserted_cons v vs]
    cases s.table? n with
    | none => rfl
    | some t => simp [Int.add_assoc]

end Summary

/-- **A summary grows.**  For any two lists of values, let the second come behind the first.  The tables of the first are
the first tables of the whole, in the same order.  A table that the second does not create again has the same columns,
and its rows are those it had and those that the second inserts into it, so they never get fewer.  If the second uses no
database, the database is the same. -/
theorem analyze_list_growth (vs ws : List Value) :
    (analyze (.list vs)).1.names <+: (analyze (.list (vs ++ ws))).1.names ∧
    (∀ n t, (analyze (.list vs)).1.table? n = some t → (∀ w ∈ ws, createdTable? w ≠ some n) →
      ∃ t', (analyze (.list (vs ++ ws))).1.table? n = some t' ∧ t'.columns = t.columns ∧
        t'.rows = t.rows + inserted ws n ∧ t.rows ≤ t'.rows) ∧
    ((∀ w ∈ ws, usedDatabase? w = none) →
      (analyze (.list (vs ++ ws))).1.database = (analyze (.list vs)).1.database) := by
  -- the whole run is the first run and what follows it
  rw [analyze_list_append_fst]
  refine ⟨Summary.names_prefix_foldl _ ws, ?_, fun hws => Summary.database_foldl hws _⟩
  intro n t ht hws
  refine ⟨{ t with rows := t.rows + inserted ws n }, ?_, rfl, rfl, ?_⟩
  · rw [Summary.table?_foldl hws, ht]
    rfl
  · exact Int.le_add_of_nonneg_right (Int.natCast_nonneg _)

/-- Rows before the creation are lost, and rows behind it count, also across the place where the lists meet. -/
theorem analyze_list_growth_meeting :
    let vs := [insertion "a", creation "a", choice "x", insertion "a"]
    let ws := [insertion "b", creation "b", insertion "a", .null]
    (analyze (.list vs)).1.table? "a" = some ⟨"a", [], 1⟩ ∧ (∀ w ∈ ws, createdTable? w ≠ some "a") ∧
      (∀ w ∈ ws, usedDatabase? w = none) ∧
      (analyze (.list (vs ++ ws))).1.database = some "x" ∧
      ∃ t', (analyze (.list (vs ++ ws))).1.table? "a" = some t' ∧ t'.columns = [] ∧ t'.rows = 2 := by
  intro vs ws
  have htable : (analyze (.list vs)).1.table? "a" = some ⟨"a", [], 1⟩ := by decide +kernel
  have hcreated : ∀ w ∈ ws, createdTable? w ≠ some "a" := by decide
  have hused : ∀ w ∈ ws, usedDatabase? w = none := by decide
  obtain ⟨_, htables, hdatabase⟩ := analyze_list_growth vs ws
  obtain ⟨t', hfound, hcolumns, hrows, _⟩ := htables "a" _ htable hcreated
  exact ⟨htable, hcreated, hused, hdatabase hused, t', hfound, hcolumns, hrows⟩

end DumpSummary
