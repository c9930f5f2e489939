import DumpSummary.Reference

/-!
# What references name

A reference names a text that lies at one of the places which its grammar lists: under `table` at most two steps down,
under `column` one to three steps down, or under `db`.  A place is described here by the steps that lead to it, and not
by the order in which places are tried.  Since a text is no record, the steps under one key lead to one text at most, so
that order does not matter.

## Contents

* `Leads`: the steps under a key; `Leads.unique`: they lead to one text at most;
* `Within`, `within_succ_iff`: texts that lie a bounded number of steps down;
* `Foremost`, `NamesTable`, `NamesColumn`: the grammars of tables and columns;
* `ofTable_eq_named_iff`, `ofDatabase_of_leads`, `ofDatabase_of_not_leads`, `ofColumn_eq_named_iff`: each reference and
  its grammar;
* `named_iff_grammar`: **references name what their grammars say.**
-/

namespace DumpSummary.Reference

/-! ## Steps under a key -/

/-- What lies under a key, so many steps down through records. -/
inductive Leads (key : String) : Nat → Value → Value → Prop
  /-- Without a step: the value itself. -/
  | here (v : Value) : Leads key 0 v v
  /-- Into a field of a record, and on from what it holds. -/
  | down {fields : List (String × Value)} {v w : Value} {k : Nat} :
    fields.lookup key = some v → Leads key k v w → Leads key (k + 1) (.record fields) w

variable {key : String} {v w : Value} {j k m : Nat} {n s t : String}

/-- From a text no step leads on. -/
theorem leads_text_iff : Leads key k (.text t) (.text s) ↔ k = 0 ∧ t = s := by
  constructor
  · intro h
    cases h
    exact ⟨rfl, rfl⟩
  · rintro ⟨rfl, rfl⟩
    exact .here _

/-- Nothing lies under null. -/
theorem not_leads_null : ¬ Leads key k .null (.text s) := by
  intro h
  cases h

/-- A text that lies under a key is in the field, or lies under the key in what the field holds. -/
theorem leads_succ_iff : Leads key (k + 1) v (.text s) ↔ Leads key k (v.field key) (.text s) := by
  constructor
  · intro h
    cases h with
    | down hfield hrest => rwa [Value.field_record, hfield, Option.getD_some]
  · intro h
    cases v with
    | record fields =>
      rw [Value.field_record] at h
      cases hfield : fields.lookup key with
      | none => exact absurd (hfield ▸ h) not_leads_null
      | some w => exact .down hfield (by rwa [hfield] at h)
    | _ => exact absurd h not_leads_null

/-- **One text at most** lies under a key, however many steps down. -/
theorem Leads.unique (hs : Leads key j v (.text s)) (ht : Leads key k v (.text t)) : j = k ∧ s = t := by
  induction j generalizing v k with
  | zero =>
    cases hs
    obtain ⟨rfl, rfl⟩ := leads_text_iff.mp ht
    exact ⟨rfl, rfl⟩
  | succ j ih =>
    cases k with
    | zero =>
      cases ht
      exact absurd (leads_text_iff.mp hs).1 (Nat.succ_ne_zero j)
    | succ k =>
      obtain ⟨rfl, rfl⟩ := ih (leads_succ_iff.mp hs) (leads_succ_iff.mp ht)
      exact ⟨rfl, rfl⟩

/-- A text lies under a key at least one and at most so many steps down. -/
def Within (key : String) (most : Nat) (v : Value) (s : String) : Prop :=
  ∃ k, 1 ≤ k ∧ k ≤ most ∧ Leads key k v (.text s)

theorem not_within_zero : ¬ Within key 0 v s := by
  rintro ⟨k, hleast, hmost, -⟩
  omega

theorem not_within_text : ¬ Within key m (.text t) s := by
  rintro ⟨k, hleast, -, h⟩
  have hzero := (leads_text_iff.mp h).1
  omega

/-- **One step more.** -/
theorem within_succ_iff : Within key (m + 1) v s ↔ v.field key = .text s ∨ Within key m (v.field key) s := by
  constructor
  · rintro ⟨k, hleast, hmost, h⟩
    obtain ⟨k, rfl⟩ := Nat.exists_eq_add_of_le' hleast
    rw [leads_succ_iff] at h
    cases k with
    | zero =>
      generalize v.field key = inner at h
      cases h
      exact .inl rfl
    | succ k => exact .inr ⟨k + 1, by omega, by omega, h⟩
  · rintro (hfield | ⟨k, -, hmost, h⟩)
    · exact ⟨1, Nat.le_refl 1, by omega, leads_succ_iff.mpr (hfield ▸ .here _)⟩
    · exact ⟨k + 1, by omega, by omega, leads_succ_iff.mpr h⟩

/-! ## Tables -/

/-- The value itself or, of a list, its first item. -/
def Foremost (v w : Value) : Prop := w = v ∨ ∃ later, v = .list (w :: later)

/-- **The grammar of tables**: a text that is not empty, in the foremost value or under `table` in it, at most two steps
down. -/
def NamesTable (v : Value) (n : String) : Prop :=
  n ≠ "" ∧ ∃ w, Foremost v w ∧ ∃ k ≤ 2, Leads "table" k w (.text n)

theorem ofText_eq_named_iff : ofText s = .named n ↔ n ≠ "" ∧ s = n := by
  unfold ofText
  split
  · rename_i hempty
    constructor
    · intro h
      cases h
    · rintro ⟨hn, rfl⟩
      exact absurd hempty hn
  · rename_i hne
    rw [named.injEq]
    exact ⟨fun h => ⟨h ▸ hne, h⟩, And.right⟩

/-- **A table object** names a text under `table`, one or two steps down. -/
theorem ofTableObject_eq_named_iff : ofTableObject v = .named n ↔ n ≠ "" ∧ Within "table" 2 v n := by
  rw [within_succ_iff, within_succ_iff, or_iff_left not_within_zero]
  unfold ofTableObject
  split
  · -- the text ends the search, and nothing lies under it
    rename_i s hfield
    rw [ofText_eq_named_iff, hfield, Value.text.injEq]
    simp [Value.field]
  · rename_i hother
    rw [or_iff_right (hother n)]
    split
    · rename_i s hfield
      rw [ofText_eq_named_iff, hfield, Value.text.injEq]
    · rename_i hother'
      constructor
      · intro h
        cases h
      · rintro ⟨-, hfield⟩
        exact absurd hfield (hother' n)

/-- A value that is no text is no text without a step. -/
theorem exists_leads_iff (h : ∀ t, v ≠ .text t) : (∃ k ≤ m, Leads key k v (.text s)) ↔ Within key m v s := by
  constructor
  · rintro ⟨k, hmost, hk⟩
    refine ⟨k, Nat.one_le_iff_ne_zero.mpr ?_, hmost, hk⟩
    rintro rfl
    cases hk
    exact h s rfl
  · rintro ⟨k, -, hmost, hk⟩
    exact ⟨k, hmost, hk⟩

/-- The name in a value that is no list. -/
theorem ofTable_eq_named_iff_of_not_list (h : ∀ items, v ≠ .list items) :
    ofTable v = .named n ↔ n ≠ "" ∧ ∃ k ≤ 2, Leads "table" k v (.text n) := by
  cases v with
  | text t =>
    refine ofText_eq_named_iff.trans (and_congr_right fun _ => ?_)
    simp only [leads_text_iff]
    exact ⟨fun h => ⟨0, Nat.zero_le 2, rfl, h⟩, fun ⟨_, _, _, h⟩ => h⟩
  | list items => exact absurd rfl (h items)
  | _ =>
    rw [exists_leads_iff (by simp)]
    unfold ofTable
    exact ofTableObject_eq_named_iff

/-- The name in a list is that in its first item, if this is no list. -/
theorem ofTable_cons_of_not_list (h : ∀ items, w ≠ .list items) (later : List Value) :
    ofTable (.list (w :: later)) = ofTable w := by
  cases w with
  | list items => exact absurd rfl (h items)
  | _ => rfl

/-- A list that begins with a list names nothing. -/
theorem ofTable_cons_list (items later : List Value) : ofTable (.list (.list items :: later)) = .unrecognized := rfl

theorem not_leads_list (items : List Value) : ¬ Leads key k (.list items) (.text s) := by
  intro h
  cases h

/-- **The name of a table** is what the grammar of tables says. -/
theorem ofTable_eq_named_iff : ofTable v = .named n ↔ NamesTable v n := by
  unfold NamesTable Foremost
  cases v with
  | list items =>
    cases items with
    | nil => simp [ofTable, not_leads_list]
    | cons w later =>
      by_cases hlist : ∃ items, w = .list items
      · obtain ⟨items, rfl⟩ := hlist
        simp [ofTable_cons_list, not_leads_list]
      · have hw : ∀ items, w ≠ .list items := fun items he => hlist ⟨items, he⟩
        rw [ofTable_cons_of_not_list hw, ofTable_eq_named_iff_of_not_list hw]
        simp [not_leads_list]
  | _ => simp [ofTable_eq_named_iff_of_not_list]

/-! ## Databases -/

/-- **A text in the field `db`** alone decides on the name of a database. -/
theorem ofDatabase_of_leads (h : Leads "db" 1 v (.text s)) :
    ofDatabase v = if s = "" then .unrecognized else .named s := by
  have hfield : v.field "db" = .text s := by
    have hstep := leads_succ_iff.mp h
    generalize v.field "db" = inner at hstep
    cases hstep
    rfl
  unfold ofDatabase
  rw [hfield]
  rfl

/-- **Without one** a database is named as a table. -/
theorem ofDatabase_of_not_leads (h : ∀ s, ¬ Leads "db" 1 v (.text s)) : ofDatabase v = ofTable v := by
  unfold ofDatabase
  split
  · rename_i s hfield
    exact absurd (leads_succ_iff.mpr (hfield ▸ .here _)) (h s)
  · rfl

/-! ## Columns -/

/-- **The grammar of columns**: a text, possibly empty, under `column`, one to three steps down, with no text fewer
steps down. -/
def NamesColumn (v : Value) (s : String) : Prop :=
  ∃ k, 1 ≤ k ∧ k ≤ 3 ∧ Leads "column" k v (.text s) ∧ ∀ j < k, ∀ t, ¬ Leads "column" j v (.text t)

/-- The first text that is met lies a bounded number of steps down. -/
theorem followColumn_eq_named_iff : followColumn m v = .named s ↔ Within "column" m v s := by
  induction m generalizing v with
  | zero => simp [followColumn, not_within_zero]
  | succ m ih =>
    rw [within_succ_iff]
    unfold followColumn
    split
    · rename_i t hfield
      rw [hfield, named.injEq, Value.text.injEq, or_iff_left not_within_text]
    · rename_i hother
      rw [ih, or_iff_right (hother s)]

/-- **The name of a column** is what the grammar of columns says. -/
theorem ofColumn_eq_named_iff : ofColumn v = .named s ↔ NamesColumn v s := by
  unfold ofColumn
  rw [followColumn_eq_named_iff]
  constructor
  · rintro ⟨k, hleast, hmost, h⟩
    -- another text fewer steps down would be the same one, as many steps down
    exact ⟨k, hleast, hmost, h, fun j hj t ht => Nat.ne_of_lt hj (ht.unique h).1⟩
  · rintro ⟨k, hleast, hmost, h, -⟩
    exact ⟨k, hleast, hmost, h⟩

theorem columnName_of_namesColumn (h : NamesColumn v s) : columnName v = s := by
  unfold columnName
  rw [ofColumn_eq_named_iff.mpr h]
  rfl

theorem columnName_of_not_namesColumn (h : ∀ s, ¬ NamesColumn v s) : columnName v = unknown := by
  unfold columnName
  cases hname : ofColumn v with
  | named s => exact absurd (ofColumn_eq_named_iff.mp hname) (h s)
  | unrecognized => rfl

/-! ## All references -/

/-- **References name what their grammars say.**  For every value: it names a table exactly as the grammar of tables
says, where a list that begins with a list names nothing and the later items of a list do not matter; it names a
database by a text in the field `db`, which is no name if it is empty, and as a table where there is no such text; and it
names a column exactly as the grammar of columns says, so that a column without a name is unknown. -/
theorem named_iff_grammar (v : Value) :
    ((∀ n, ofTable v = .named n ↔ NamesTable v n) ∧
      (∀ items later, v = .list (.list items :: later) → ofTable v = .unrecognized) ∧
      ∀ w later later', v = .list (w :: later) → ofTable v = ofTable (.list (w :: later'))) ∧
    ((∀ s, Leads "db" 1 v (.text s) → ofDatabase v = if s = "" then .unrecognized else .named s) ∧
      ((∀ s, ¬ Leads "db" 1 v (.text s)) → ofDatabase v = ofTable v)) ∧
    (∀ s, ofColumn v = .named s ↔ NamesColumn v s) ∧
    (∀ s, NamesColumn v s → columnName v = s) ∧ ((∀ s, ¬ NamesColumn v s) → columnName v = "unknown") := by
  refine ⟨⟨fun n => ofTable_eq_named_iff, ?_, ?_⟩, ⟨fun s => ofDatabase_of_leads, ofDatabase_of_not_leads⟩,
    fun s => ofColumn_eq_named_iff, fun s => columnName_of_namesColumn, columnName_of_not_namesColumn⟩
  · rintro items later rfl
    exact ofTable_cons_list items later
  · rintro w later later' rfl
    cases w <;> rfl

end DumpSummary.Reference
