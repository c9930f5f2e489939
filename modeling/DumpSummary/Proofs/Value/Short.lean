import DumpSummary.Value.Display

/-!
# Short values

A value is short if each whole number in it can be written.  Lists and records are short if what they hold is.

## Contents

* `isShort_list`, `isShort_record`: lists and records;
* `isShort_ofText?`, `isShort_texts`: texts.
-/

namespace DumpSummary.Value

theorem areShort_iff {vs : List Value} : areShort vs = true ↔ ∀ v ∈ vs, v.isShort = true := by
  induction vs with
  | nil => simp [areShort]
  | cons v vs ih => simp [areShort, ih]

theorem fieldsAreShort_iff {fs : List (String × Value)} :
    fieldsAreShort fs = true ↔ ∀ f ∈ fs, f.2.isShort = true := by
  induction fs with
  | nil => simp [fieldsAreShort]
  | cons f fs ih => simp [fieldsAreShort, ih]

/-- **A list** is short if all its items are. -/
@[simp] theorem isShort_list {vs : List Value} : (Value.list vs).isShort = true ↔ ∀ v ∈ vs, v.isShort = true := by
  rw [isShort, areShort_iff]

/-- **A record** is short if the values of all its fields are. -/
@[simp] theorem isShort_record {fs : List (String × Value)} :
    (Value.record fs).isShort = true ↔ ∀ f ∈ fs, f.2.isShort = true := by
  rw [isShort, fieldsAreShort_iff]

@[simp] theorem isShort_text (s : String) : (Value.text s).isShort = true := by
  rw [isShort]
  all_goals simp

@[simp] theorem isShort_null : Value.null.isShort = true := by
  rw [isShort]
  all_goals simp

/-- A whole number is short if it has no more digits than are written. -/
@[simp] theorem isShort_int {n : Int} :
    (Value.int n).isShort = true ↔ (Nat.toDigits 10 n.natAbs).length ≤ Text.maxDigits := by
  rw [isShort, decide_eq_true_iff]

@[simp] theorem isShort_ofText? (s : Option String) : (Value.ofText? s).isShort = true := by
  cases s with
  | none => exact isShort_null
  | some s => exact isShort_text s

@[simp] theorem isShort_texts (ss : List String) : (Value.texts ss).isShort = true := by
  refine isShort_list.mpr fun v hv => ?_
  obtain ⟨s, -, rfl⟩ := List.mem_map.mp hv
  exact isShort_text s

end DumpSummary.Value
