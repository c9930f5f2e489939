import DumpSummary.Proofs.Outcome
import DumpSummary.Proofs.Record.Effect
import DumpSummary.Proofs.Value.Short

/-!
# The numbers in statement records

The only whole numbers in the record of a statement are sizes of types, and a size is read only if it does not have too
many digits.  So every statement record is short: each number in it can be written again.

## Contents

* `length_toDigits_le`, `length_toDigits_of_integer?`: a number is written with no more digits than it is read from;
* `isShort_numberValue`, `isShort_columnDefinition`, `isShort_schemaItem`: what a record consists of;
* `isShort_ofStatement`: **the record of a statement is short.**
-/

namespace DumpSummary.Record

open Sql

/-! ## Numbers of so many digits -/

/-- A digit is less than ten. -/
theorem digitValue?_lt {c : Char} {d : Nat} (h : Text.digitValue? c = some d) : d < 10 := by
  unfold Text.digitValue? at h
  split at h
  · rename_i hdigit
    simp only [Char.isDigit, Bool.and_eq_true, decide_eq_true_eq] at hdigit
    have hle : c.toNat ≤ 57 := hdigit.2
    cases h
    omega
  · split at h
    · cases h
    · obtain ⟨z, hz, rfl⟩ := Option.map_eq_some_iff.mp h
      have hrange := List.find?_some hz
      simp only [Bool.and_eq_true, decide_eq_true_eq] at hrange
      omega

/-- One more digit behind a number. -/
theorem length_toDigits_le (n : Nat) {d : Nat} (hd : d < 10) :
    (Nat.toDigits 10 (10 * n + d)).length ≤ (Nat.toDigits 10 n).length + 1 := by
  cases Nat.eq_zero_or_pos n with
  | inl hzero =>
    rw [hzero, Nat.mul_zero, Nat.zero_add, Nat.toDigits_of_lt_base hd]
    exact Nat.le_add_left 1 _
  | inr hpos =>
    rw [← Nat.toDigits_append_toDigits (by decide) hpos hd, List.length_append, Nat.toDigits_of_lt_base hd]
    exact Nat.le_refl _

/-- Reading digits on from a number. -/
theorem length_toDigits_of_foldl {cs : List Char} {start n : Nat}
    (h : cs.foldl (fun n c => do return 10 * (← n) + (← Text.digitValue? c)) (some start) = some n) :
    (Nat.toDigits 10 n).length ≤ (Nat.toDigits 10 start).length + cs.length := by
  induction cs generalizing start with
  | nil =>
    cases h
    exact Nat.le_refl _
  | cons c cs ih =>
    rw [List.foldl_cons] at h
    cases hd : Text.digitValue? c with
    | none =>
      -- nothing is read on from what is no number
      have hsome := (foldl_digits_isSome cs _).mp (Option.isSome_of_eq_some h)
      rw [hd] at hsome
      cases hsome.1
    | some d =>
      rw [hd] at h
      have hnext := length_toDigits_le start (digitValue?_lt hd)
      have hrest := ih h
      rw [List.length_cons]
      omega

/-- **A number** is written with no more digits than it is read from. -/
theorem length_toDigits_of_integer? {cs : List Char} {n : Nat} (h : Text.integer? cs = some n) :
    (Nat.toDigits 10 n).length ≤ cs.length := by
  cases cs with
  | nil => cases h
  | cons c cs =>
    have hdigit := (integer?_isSome_iff.mp (Option.isSome_of_eq_some h)).2 c List.mem_cons_self
    obtain ⟨d, hd⟩ := Option.isSome_iff_exists.mp hdigit
    -- the first digit is read on from zero, but takes its place
    have hfold : (c :: cs).foldl (fun n c => do return 10 * (← n) + (← Text.digitValue? c)) (some 0) = some n := h
    rw [List.foldl_cons, hd] at hfold
    have hrest := length_toDigits_of_foldl hfold
    have hfirst : (Nat.toDigits 10 (10 * 0 + d)).length = 1 := by
      rw [Nat.mul_zero, Nat.zero_add, Nat.toDigits_of_lt_base (digitValue?_lt hd)]
      rfl
    rw [List.length_cons]
    omega

/-! ## Records -/

variable {d : Dialect} {v : Value}

/-- A size is short: its digits have been counted. -/
theorem isShort_numberValue {text : String} (h : numberValue text = .ok v) : v.isShort = true := by
  unfold numberValue at h
  dsimp only at h
  split at h
  · cases h
    exact Value.isShort_text text
  · split at h
    · cases h
    · rename_i hleading
      split at h
      · rename_i n hn
        cases h
        have hdigits := (integer?_isSome_iff.mp (Option.isSome_of_eq_some hn)).2
        have hall : text.toList.takeWhile (fun c => (Text.digitValue? c).isSome) = text.toList :=
          List.takeWhile_eq_self_iff.mpr hdigits
        rw [hall, Nat.not_lt] at hleading
        exact Value.isShort_int.mpr (Nat.le_trans (length_toDigits_of_integer? hn) hleading)
      · cases h

/-- The definition of a column. -/
theorem isShort_columnDefinition {type : Option DataType} (h : columnDefinition d type = .ok v) : v.isShort = true := by
  cases type with
  | none =>
    cases h
    simp
  | some t =>
    unfold columnDefinition at h
    obtain ⟨params, hparams, h⟩ := exists_of_bind h
    have hshort : ∀ p ∈ params, p.isShort = true := forall_of_mapM (fun _ _ => isShort_numberValue) hparams
    cases h
    match params with
    | [] => simp
    | [length] => simpa using hshort
    | length :: scale :: rest =>
      simp only [List.forall_mem_cons] at hshort
      simp [hshort.1, hshort.2.1]

/-- The entry of a definition. -/
theorem isShort_schemaItem {item : SchemaItem} (h : ofSchemaItem d item = .ok v) : v.isShort = true := by
  cases item with
  | column c =>
    unfold ofSchemaItem at h
    obtain ⟨definition, hdefinition, h⟩ := exists_of_bind h
    cases h
    simp [isShort_columnDefinition hdefinition]
  | constraint kind body =>
    cases h
    simp

/-- The name of a table. -/
theorem isShort_tableName (t : TableName) : (ofTableName t).isShort = true := by
  by_cases hdatabase : t.database = "" <;> simp [ofTableName, hdatabase]

/-- **The record of a statement** is short. -/
theorem isShort_ofStatement {s : Statement} (h : ofStatement d s = .ok v) : v.isShort = true := by
  unfold ofStatement at h
  obtain ⟨fields, hfields, h⟩ := exists_of_bind h
  cases h
  cases s with
  | use target =>
    cases hfields
    simp
  | create kind target items =>
    unfold fieldsOf at hfields
    dsimp only at hfields
    split at hfields
    · obtain ⟨vs, hitems, hfields⟩ := exists_of_bind hfields
      cases hfields
      have hall : ∀ v ∈ vs, v.isShort = true := forall_of_mapM (fun _ _ => isShort_schemaItem) hitems
      cases target <;> simpa [tableField, isShort_tableName] using hall
    · cases hfields
      cases target <;> simp
  | insert target rows =>
    cases hfields
    have hrow : ∀ row, (ofRow d row).isShort = true := fun row => Value.isShort_texts _
    cases target <;> cases rows <;> simp [tableField, isShort_tableName, hrow]
  | raw keyword =>
    cases hfields
    simp
  | other key =>
    cases hfields
    simp

end DumpSummary.Record
