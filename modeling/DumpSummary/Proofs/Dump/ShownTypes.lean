import DumpSummary.Proofs.Dump.ReadBack
import DumpSummary.Proofs.Record.Effect
import DumpSummary.Proofs.Record.Tag

/-!
# The types of a description, shown

A type of a description is read as a name and sizes.  The tag of the type is its name again, and its sizes are numbers
that are shown as they were written, so the type is shown as it is printed.

## Contents

* `integer?_repr`, `shownNumber_repr`, `readable_repr`: numbers as they are written;
* `tag_kind`, `typeNumbers_kind`: the name and the sizes of a type;
* `shownType_kind`: **a type is shown as it is printed.**
-/

namespace DumpSummary.Description

open Record Sql

/-! ## Numbers -/

/-- Reading digits on from a number. -/
theorem foldl_isDigit {cs : List Char} (h : ∀ c ∈ cs, c.isDigit = true) (n : Nat) :
    cs.foldl (fun n c => do return 10 * (← n) + (← Text.digitValue? c)) (some n)
      = some (Nat.ofDigitChars 10 cs n) := by
  induction cs generalizing n with
  | nil => rw [List.foldl_nil, Nat.ofDigitChars_nil]
  | cons c cs ih =>
    have hvalue : Text.digitValue? c = some (c.toNat - '0'.toNat) := if_pos (h c List.mem_cons_self)
    rw [List.foldl_cons, hvalue, Nat.ofDigitChars_cons]
    exact ih (fun x hx => h x (List.mem_cons_of_mem c hx)) _

/-- A written number is read as itself. -/
theorem integer?_repr (n : Nat) : Text.integer? (Nat.repr n).toList = some n := by
  have hne : ¬ (Nat.repr n).toList.isEmpty = true := by
    rw [Nat.toList_repr, List.isEmpty_iff]
    exact Nat.toDigits_ne_nil
  unfold Text.integer?
  rw [if_neg hne, foldl_isDigit (fun c hc => isDigit_of_mem_repr hc), Nat.toList_repr, Nat.ofDigitChars_ten_toDigits]

/-- A written number is shown as itself. -/
theorem shownNumber_repr (n : Nat) : shownNumber (Nat.repr n) = Nat.repr n := by
  unfold shownNumber
  rw [integer?_repr]

/-- A written size can be read. -/
theorem readable_repr (n : Size) : Readable (Nat.repr n.value) := by
  intro _
  constructor
  · intro c hc
    rw [Text.digitValue?, if_pos (isDigit_of_mem_repr hc)]
    rfl
  · -- it has eighteen digits at most
    have hlength : (Nat.repr n.value).length ≤ 18 := (Nat.length_repr_le_iff (by decide)).mpr n.lt
    have hlist : (Nat.repr n.value).toList.length ≤ 18 := by rwa [String.length_toList]
    exact Nat.le_trans hlist (by decide)

/-! ## Names and sizes -/

/-- The name of a type. -/
def Kind.name : Kind → String
  | .int => "INT"
  | .varchar _ => "VARCHAR"
  | .decimal _ _ => "DECIMAL"

/-- The sizes of a type. -/
def Kind.sizes : Kind → List Nat
  | .int => []
  | .varchar n => [n.value]
  | .decimal p s => [p.value, s.value]

/-- The name of a type is made of capitals. -/
theorem isUpper_name (k : Kind) : ∀ c ∈ k.name.toList, c.isUpper = true := by
  cases k with
  | int => exact List.all_eq_true.mp (show "INT".toList.all Char.isUpper = true by decide)
  | varchar _ => exact List.all_eq_true.mp (show "VARCHAR".toList.all Char.isUpper = true by decide)
  | decimal _ _ => exact List.all_eq_true.mp (show "DECIMAL".toList.all Char.isUpper = true by decide)

theorem name_ne_empty (k : Kind) : k.name ≠ "" := by
  cases k <;> simp [Kind.name]

/-- The sizes of a type are the numbers among its parameters. -/
theorem typeNumbers_kind (k : Kind) : typeNumbers (some k.dataType) = k.sizes.map Nat.repr := by
  cases k <;> rfl

/-- No size opens or closes a group. -/
theorem parens_notMem_repr (n : Nat) : '(' ∉ (Nat.repr n).toList ∧ ')' ∉ (Nat.repr n).toList := by
  constructor
  · exact fun h => absurd (isDigit_of_mem_repr h) (by decide)
  · exact fun h => absurd (isDigit_of_mem_repr h) (by decide)

/-- **The tag of a type** is its name. -/
theorem tag_kind (k : Kind) : tagText (k.dataType.render .mysql).toList = k.name.toList := by
  have hblank : ∀ c ∈ k.name.toList, Text.isBlank c = false := fun c hc => isBlank_of_isUpper (isUpper_name k c hc)
  have hopen : '(' ∉ k.name.toList := fun h => absurd (isUpper_name k _ h) (by decide)
  have hne : k.name.toList ≠ [] := fun h => name_ne_empty k (String.toList_eq_nil_iff.mp h)
  cases k with
  | int => exact tagText_word hblank hopen hne
  | varchar n =>
    have htext : ((Kind.varchar n).dataType.render .mysql).toList
        = (Kind.varchar n).name.toList ++ ('(' :: (Nat.repr n.value).toList ++ [')']) := by
      simp [Kind.dataType, Kind.name, DataType.render, renderList, Expr.render, TypeKind.spelling]
    rw [htext]
    exact tagText_word_group hblank hopen hne (parens_notMem_repr n.value)
  | decimal p s =>
    have htext : ((Kind.decimal p s).dataType.render .mysql).toList = (Kind.decimal p s).name.toList
        ++ ('(' :: ((Nat.repr p.value).toList ++ ", ".toList ++ (Nat.repr s.value).toList) ++ [')']) := by
      simp [Kind.dataType, Kind.name, DataType.render, renderList, Expr.render, TypeKind.spelling]
    have hparens : '(' ∉ (Nat.repr p.value).toList ++ ", ".toList ++ (Nat.repr s.value).toList
        ∧ ')' ∉ (Nat.repr p.value).toList ++ ", ".toList ++ (Nat.repr s.value).toList := by
      have hp := parens_notMem_repr p.value
      have hs := parens_notMem_repr s.value
      simp only [List.mem_append, hp.1, hp.2, hs.1, hs.2, or_false, false_or]
      decide
    rw [htext]
    exact tagText_word_group hblank hopen hne hparens

/-- The name of a type is shown as it is printed. -/
theorem shownName_kind (k : Kind) : shownName .mysql k.dataType = k.name := by
  have htag : typeTag .mysql k.dataType = k.name := by
    have hne : ¬ k.name.toList.isEmpty = true := fun h =>
      name_ne_empty k (String.toList_eq_nil_iff.mp (List.isEmpty_iff.mp h))
    unfold typeTag
    rw [tag_kind]
    dsimp only
    rw [if_neg hne, String.ofList_toList]
  have hupper : Text.upper k.name = k.name := by
    have h := upper_of_isUpper (isUpper_name k)
    rwa [String.ofList_toList] at h
  unfold shownName
  rw [htag, hupper, if_neg (name_ne_empty k)]

/-- **A type is shown as it is printed.** -/
theorem shownType_kind (k : Kind) : shownType .mysql (some k.dataType) = k.text := by
  show shownName .mysql k.dataType ++ shownSizes (typeNumbers (some k.dataType)) = k.text
  rw [shownName_kind, typeNumbers_kind]
  cases k with
  | int => rfl
  | varchar n =>
    apply String.toList_injective
    simp [Kind.sizes, Kind.name, Kind.text, shownSizes, shownNumber_repr]
  | decimal p s =>
    apply String.toList_injective
    simp [Kind.sizes, Kind.name, Kind.text, shownSizes, shownNumber_repr]

/-- The sizes of a type can be read. -/
theorem readable_kind (k : Kind) : ∀ x ∈ typeNumbers (some k.dataType), Readable x := by
  intro x hx
  rw [typeNumbers_kind] at hx
  obtain ⟨n, hn, rfl⟩ := List.mem_map.mp hx
  cases k with
  | int => cases hn
  | varchar l =>
    obtain rfl := List.mem_singleton.mp hn
    exact readable_repr l
  | decimal p s =>
    rcases List.mem_pair.mp hn with rfl | rfl
    · exact readable_repr p
    · exact readable_repr s

end DumpSummary.Description
