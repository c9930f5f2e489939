import DumpSummary.Proofs.Summary.History

/-!
# Statements about different things can change places

The database of a summary depends only on the statements that use one, and a table only on the statements that create
or fill it.  So two lists of statements that agree, database by database and table by table, on what they say have the
same summary, however the statements about different things are interleaved and whatever else stands between them.
Only the order of the tables depends on statements about different tables: it is the order of their first creations.

## Contents

* `History.uses`, `History.concerns`: the statements that a database and a table depend on;
* `database_filter_uses`, `table_filter_concerns`: nothing else matters to them;
* `names_perm`, `names_eq_of_order`: the tables that are there, and their order;
* `analyze_list_reorder`: **statements about different things can change places.**
-/

namespace DumpSummary

namespace History

/-- Whether a statement uses a database. -/
def uses (v : Value) : Bool := (usedDatabase? v).isSome

/-- Whether a statement creates or fills that table. -/
def concerns (n : String) (v : Value) : Bool := creates n v || fills n v

/-! ## What a database and a table depend on -/

/-- **The database** depends on the statements that use one. -/
theorem database_filter_uses (vs : List Value) : database (vs.filter uses) = database vs := by
  have hkeep : (fun v => if uses v = true then usedDatabase? v else none) = usedDatabase? := by
    funext v
    cases h : usedDatabase? v <;> simp [uses, h]
  unfold database
  rw [List.filterMap_filter, hkeep]

theorem creates_imp_concerns {n : String} {v : Value} (h : creates n v = true) : concerns n v = true := by
  simp [concerns, h]

theorem fills_imp_concerns {n : String} {v : Value} (h : fills n v = true) : concerns n v = true := by
  simp [concerns, h]

/-- No statement is about a table that is never created and never filled. -/
theorem filter_concerns_eq_nil {vs : List Value} {n : String}
    (h : n ∉ vs.filterMap fun v => (createdTable? v).or (filledTable? v)) : vs.filter (concerns n) = [] := by
  rw [List.filter_eq_nil_iff]
  intro v hv hn
  refine h (List.mem_filterMap.mpr ⟨v, hv, ?_⟩)
  rcases Bool.or_eq_true_iff.mp hn with hcreates | hfills
  · have hc : createdTable? v = some n := by simpa [creates] using hcreates
    rw [hc]
    rfl
  · have hf : filledTable? v = some n := by simpa [fills] using hfills
    cases hc : createdTable? v with
    | none => exact hf
    | some m => rw [filledTable?_of_createdTable? hc] at hf; cases hf

/-- A selection of the statements about a table is a selection of all statements. -/
theorem filter_concerns {n : String} {p : Value → Bool} (hp : ∀ v, p v = true → concerns n v = true)
    (vs : List Value) : (vs.filter (concerns n)).filter p = vs.filter p := by
  rw [List.filter_filter]
  refine List.filter_congr fun v _ => ?_
  cases h : p v with
  | false => rfl
  | true => rw [hp v h]; rfl

/-- The statements about a table since its last creation. -/
theorem sinceCreation_filter_concerns (vs : List Value) (n : String) :
    sinceCreation (vs.filter (concerns n)) n = (sinceCreation vs n).filter (concerns n) := by
  -- a statement that is left out is no creation, so it does not stop the search from the end
  have hstop : (fun v => !concerns n v || !creates n v) = fun v => !creates n v := by
    funext v
    cases hc : creates n v with
    | false => simp
    | true => simp [creates_imp_concerns hc]
  unfold sinceCreation List.rtakeWhile
  rw [← List.filter_reverse, List.takeWhile_filter, hstop, List.filter_reverse]

/-- **A table** depends on the statements that create or fill it. -/
theorem table_filter_concerns (vs : List Value) (n : String) : table (vs.filter (concerns n)) n = table vs n := by
  have hcolumns : columns (vs.filter (concerns n)) n = columns vs n := by
    unfold columns
    rw [filter_concerns fun v => creates_imp_concerns]
  have hrows : rows (vs.filter (concerns n)) n = rows vs n := by
    unfold rows
    rw [sinceCreation_filter_concerns, filter_concerns fun v => fills_imp_concerns]
  unfold table
  rw [hcolumns, hrows]

/-- Whether a table is there depends on the statements that create or fill it. -/
theorem mem_names_filter_concerns {vs : List Value} {n : String} :
    n ∈ names (vs.filter (concerns n)) ↔ n ∈ names vs := by
  simp only [mem_names, List.mem_filter]
  constructor
  · rintro ⟨v, ⟨hv, _⟩, hc⟩
    exact ⟨v, hv, hc⟩
  · rintro ⟨v, hv, hc⟩
    exact ⟨v, ⟨hv, creates_imp_concerns (by simp [creates, hc])⟩, hc⟩

/-! ## Two lists that say the same of every table -/

theorem names_nodup (vs : List Value) : (names vs).Nodup := by
  refine (names_pairwise vs).imp ?_
  intro m n hlt he
  rw [he] at hlt
  exact Nat.lt_irrefl _ hlt

variable {vs ws : List Value}

/-- They have the same tables, maybe in another order. -/
theorem names_perm (h : ∀ n, vs.filter (concerns n) = ws.filter (concerns n)) : (names vs).Perm (names ws) := by
  rw [List.perm_ext_iff_of_nodup (names_nodup vs) (names_nodup ws)]
  intro n
  rw [← mem_names_filter_concerns, h n, mem_names_filter_concerns]

theorem table_eq (h : ∀ n, vs.filter (concerns n) = ws.filter (concerns n)) : table vs = table ws := by
  funext n
  rw [← table_filter_concerns, h n, table_filter_concerns]

/-- The same names in the order of first creation are the same list, if first creations come in the same order. -/
theorem names_eq_of_order (hperm : (names vs).Perm (names ws))
    (horder : ∀ m ∈ names vs, ∀ n ∈ names vs,
      firstCreation vs m < firstCreation vs n → firstCreation ws m < firstCreation ws n) :
    names vs = names ws := by
  -- both lists are sorted by the place of the first creation in `ws`
  have hvs : (names vs).Pairwise fun m n => firstCreation ws m < firstCreation ws n :=
    (names_pairwise vs).imp_of_mem fun hm hn hlt => horder _ hm _ hn hlt
  have hasymm : ∀ m n : String, m ∈ names vs → n ∈ names ws → firstCreation ws m < firstCreation ws n →
      firstCreation ws n < firstCreation ws m → m = n :=
    fun m n _ _ hmn hnm => absurd hnm (Nat.lt_asymm hmn)
  exact hperm.eq_of_pairwise hasymm hvs (names_pairwise ws)

end History

open History

/-- **Statements about different things can change places.**  Let two lists of values have the same statements that
use a database, in the same order, and for every table the same statements that create or fill it, in the same order.
Then they have the same database and the same tables; and if the tables are first created in the same order, they have
the same summary. -/
theorem analyze_list_reorder {vs ws : List Value} (huses : vs.filter uses = ws.filter uses)
    (hconcerns : ∀ n, vs.filter (concerns n) = ws.filter (concerns n)) :
    (analyze (.list vs)).1.database = (analyze (.list ws)).1.database ∧
    (analyze (.list vs)).1.tables.Perm (analyze (.list ws)).1.tables ∧
    ((∀ m ∈ names vs, ∀ n ∈ names vs,
        firstCreation vs m < firstCreation vs n → firstCreation ws m < firstCreation ws n) →
      (analyze (.list vs)).1 = (analyze (.list ws)).1) := by
  have hvs : (analyze (.list vs)).1 = summary vs := run_empty 0 vs
  have hws : (analyze (.list ws)).1 = summary ws := run_empty 0 ws
  have hdatabase : database vs = database ws := by
    rw [← database_filter_uses, huses, database_filter_uses]
  have hnames : (names vs).Perm (names ws) := names_perm hconcerns
  have htable : table vs = table ws := table_eq hconcerns
  rw [hvs, hws]
  refine ⟨hdatabase, ?_, fun horder => ?_⟩
  · show ((names vs).map (table vs)).Perm ((names ws).map (table ws))
    rw [htable]
    exact hnames.map _
  · unfold summary
    rw [hdatabase, htable, names_eq_of_order hnames horder]

/-- A statement that creates a table without columns. -/
def creation (n : String) : Value :=
  .record [("type", .text "create"), ("keyword", .text "table"), ("table", .text n)]

/-- A statement that inserts one row into a table. -/
def insertion (n : String) : Value := .record [("type", .text "insert"), ("table", .text n)]

/-- A statement that uses a database. -/
def choice (d : String) : Value := .record [("type", .text "use"), ("db", .text d)]

/-- Two tables, whose statements alternate. -/
def alternating : List Value :=
  [insertion "b", creation "a", choice "x", creation "b", .null, insertion "a", insertion "b", choice "y", creation "a"]

/-- The same two tables one after the other. -/
def consecutive : List Value :=
  [choice "x", creation "a", insertion "a", creation "a", insertion "b", creation "b", insertion "b", choice "y"]

theorem analyze_list_alternating :
    (∀ n, alternating.filter (concerns n) = consecutive.filter (concerns n)) ∧
    (analyze (.list alternating)).1 = (analyze (.list consecutive)).1 := by
  have hconcerns : ∀ n, alternating.filter (concerns n) = consecutive.filter (concerns n) := by
    intro n
    by_cases hn : n ∈ ["a", "b"]
    · rcases List.mem_pair.mp hn with rfl | rfl <;> rfl
    · -- no statement of either list is about any other table
      have halternating : (alternating.filterMap fun v => (createdTable? v).or (filledTable? v)) ⊆ ["a", "b"] := by decide
      have hconsecutive : (consecutive.filterMap fun v => (createdTable? v).or (filledTable? v)) ⊆ ["a", "b"] := by decide
      rw [filter_concerns_eq_nil fun hmem => hn (halternating hmem),
        filter_concerns_eq_nil fun hmem => hn (hconsecutive hmem)]
  have huses : alternating.filter uses = consecutive.filter uses := rfl
  exact ⟨hconcerns, (analyze_list_reorder huses hconcerns).2.2 (by decide)⟩

end DumpSummary
