import DumpSummary.Proofs.Json.Literal
import DumpSummary.Value.Display

/-!
# The parts of a text

A text that is put together of parts can be taken apart again at a character that no part holds.  A number is a good
part: it is written in digits and possibly a minus sign, and no two numbers are written alike.

## Contents

* `eq_of_cut`, `eq_of_cut_last`, `eq_of_cut_or_end`: texts cut at a character that occurs in no part;
* `Value.toList_integerText`: a number is written as in JSON;
* `Json.integerLiteral_injective`, `Json.notMem_integerLiteral`: numbers as parts.
-/

namespace DumpSummary

/-! ## Cutting -/

section

variable {α : Type} {c : α} {xs ys us vs : List α}

/-- A text has one first occurrence of a character. -/
theorem eq_of_cut (hx : c ∉ xs) (hy : c ∉ ys) (h : xs ++ c :: us = ys ++ c :: vs) : xs = ys ∧ us = vs := by
  induction xs generalizing ys with
  | nil =>
    cases ys with
    | nil => exact ⟨rfl, (List.cons.inj h).2⟩
    | cons y ys => exact absurd ((List.cons.inj h).1 ▸ List.mem_cons_self) hy
  | cons x xs ih =>
    cases ys with
    | nil => exact absurd ((List.cons.inj h).1 ▸ List.mem_cons_self) hx
    | cons y ys =>
      obtain ⟨rfl, htail⟩ := List.cons.inj h
      have hrest := ih (fun hm => hx (List.mem_cons_of_mem x hm)) (fun hm => hy (List.mem_cons_of_mem x hm)) htail
      exact ⟨congrArg (x :: ·) hrest.1, hrest.2⟩

/-- It has one last occurrence, too. -/
theorem eq_of_cut_last (hu : c ∉ us) (hv : c ∉ vs) (h : xs ++ c :: us = ys ++ c :: vs) : xs = ys ∧ us = vs := by
  have hreverse : us.reverse ++ c :: xs.reverse = vs.reverse ++ c :: ys.reverse := by
    simpa using congrArg List.reverse h
  have hcut := eq_of_cut (by simpa using hu) (by simpa using hv) hreverse
  exact ⟨List.reverse_inj.mp hcut.2, List.reverse_inj.mp hcut.1⟩

/-- The part before the first occurrence may also be all that there is. -/
theorem eq_of_cut_or_end (hx : c ∉ xs) (hy : c ∉ ys) (hu : us = [] ∨ ∃ us', us = c :: us')
    (hv : vs = [] ∨ ∃ vs', vs = c :: vs') (h : xs ++ us = ys ++ vs) : xs = ys ∧ us = vs := by
  rcases hu with rfl | ⟨us', rfl⟩
  · rcases hv with rfl | ⟨vs', rfl⟩
    · rw [List.append_nil, List.append_nil] at h
      exact ⟨h, rfl⟩
    · rw [List.append_nil] at h
      exact absurd (h ▸ List.mem_append_right ys List.mem_cons_self) hx
  · rcases hv with rfl | ⟨vs', rfl⟩
    · rw [List.append_nil] at h
      exact absurd (h ▸ List.mem_append_right xs List.mem_cons_self) hy
    · obtain ⟨heq, hrest⟩ := eq_of_cut hx hy h
      exact ⟨heq, congrArg (c :: ·) hrest⟩

end

/-! ## Numbers -/

/-- A number is written in texts as it is written in JSON. -/
theorem Value.toList_integerText (n : Int) : (integerText n).toList = Json.integerLiteral n := by
  unfold integerText Json.integerLiteral
  split
  · rw [String.toList_append, Nat.toList_repr]
    rfl
  · exact Nat.toList_repr

namespace Json

/-- Two numbers are not written alike: what is written can be read back. -/
theorem integerLiteral_injective : Function.Injective integerLiteral := by
  intro m n h
  have hends : Ends [] := trivial
  have hread : ∀ k, readNumber (integerLiteral k ++ []) = some (.int k, []) := readNumber_integerLiteral hends
  have heq := hread m
  rw [h, hread n] at heq
  exact (Value.int.inj (Prod.mk.inj (Option.some.inj heq)).1).symm

/-- A character that a number is not written with. -/
theorem notMem_integerLiteral {c : Char} (h : c.isDigit = false ∧ c ≠ '-') (n : Int) : c ∉ integerLiteral n := by
  intro hc
  rcases mem_integerLiteral hc with hdigit | rfl
  · rw [h.1] at hdigit
    cases hdigit
  · exact h.2 rfl

end Json
end DumpSummary
