import DumpSummary.Proofs.Record.Tag
import Mathlib.Data.List.TakeWhile

/-!
# Groups in the text of a type

The tag of a type is found by deleting groups, innermost first, until none is left, without a look at what stands in
them.  Here the outcome is told by counting: deleting groups changes neither the number of groups that are open behind a
text nor what stands in none, and when no group is left to delete a paired text has no parenthesis any more.  So of a
paired text remains what stands outside its groups; of any other text a parenthesis remains, and it gets into the tag.

## Contents

* `dropAllGroups_of_paired`, `paren_mem_dropAllGroups`: **what deleting groups leaves**;
* `mem_dropModifiers`, `filter_collapseBlanks`: what the two other passes keep;
* `tagText_of_paired`, `paren_mem_tagText`: **the tag** of a paired text, and of any other.
-/

namespace DumpSummary.Record

variable {c : Char} {cs rest : List Char}

/-! ## Deleting groups -/

/-- **Of a paired text** remains what stands outside its groups. -/
theorem dropAllGroups_of_paired (h : Paired cs) : dropAllGroups cs = outside 0 cs := by
  have hleaves : Leaves cs (dropAllGroups cs) := leaves_dropAllGroups cs
  have hpaired : Paired (dropAllGroups cs) := (hleaves.depth?_eq 0).symm.trans h
  have hnone : '(' ∉ dropAllGroups cs ∧ ')' ∉ dropAllGroups cs := (settled_dropAllGroups cs).noParens hpaired
  rw [hleaves.outside_eq 0, outside_zero_of_noParens hnone]

/-- **Of any other text** a parenthesis remains. -/
theorem paren_mem_dropAllGroups (h : ¬ Paired cs) : '(' ∈ dropAllGroups cs ∨ ')' ∈ dropAllGroups cs := by
  by_contra hnone
  rw [not_or] at hnone
  have hdepth : depth? 0 (dropAllGroups cs) = some 0 := depth?_of_noParens hnone 0
  exact h (((leaves_dropAllGroups cs).depth?_eq 0).trans hdepth)

/-! ## The two other passes -/

/-- A parenthesis does not stand in a sign word that begins the text, so it stands behind it. -/
theorem mem_of_modifierEnd? (hc : c = '(' ∨ c = ')') (h : modifierEnd? cs = some rest) (hmem : c ∈ cs) : c ∈ rest := by
  obtain ⟨-, rfl⟩ := modifierEnd?_eq_some_iff.mp h
  rw [← List.takeWhile_append_dropWhile (p := Text.isWord) (l := cs)] at hmem
  rcases List.mem_append.mp hmem with hrun | hrest
  · have hword := List.mem_takeWhile_imp hrun
    rcases hc with rfl | rfl <;> cases hword
  · exact hrest

theorem isBlank_paren (hc : c = '(' ∨ c = ')') : Text.isBlank c = false := by
  rcases hc with rfl | rfl <;> decide

/-- Behind the blanks of a text stands everything that is not blank. -/
theorem mem_dropWhile_isBlank (hc : Text.isBlank c = false) (hmem : c ∈ cs) : c ∈ cs.dropWhile Text.isBlank := by
  rw [← List.takeWhile_append_dropWhile (p := Text.isBlank) (l := cs)] at hmem
  rcases List.mem_append.mp hmem with hblank | hrest
  · rw [List.mem_takeWhile_imp hblank] at hc
    cases hc
  · exact hrest

/-- No parenthesis is deleted with a sign word. -/
theorem mem_dropModifiers (hc : c = '(' ∨ c = ')') (hmem : c ∈ cs) : c ∈ dropModifiers cs := by
  fun_induction dropModifiers cs with
  | case1 => exact hmem
  | case2 d cs hblank rest hend ih =>
    have hne : c ≠ d := by
      rintro rfl
      rw [isBlank_paren hc] at hblank
      cases hblank
    have hcs : c ∈ cs := (List.mem_cons.mp hmem).resolve_left hne
    exact ih (mem_of_modifierEnd? hc hend (mem_dropWhile_isBlank (isBlank_paren hc) hcs))
  | case3 d cs hblank hend ih =>
    exact (List.mem_cons.mp hmem).elim (fun he => he ▸ List.mem_cons_self) fun hcs => List.mem_cons_of_mem d (ih hcs)
  | case4 d cs hblank ih =>
    exact (List.mem_cons.mp hmem).elim (fun he => he ▸ List.mem_cons_self) fun hcs => List.mem_cons_of_mem d (ih hcs)

/-- Besides blanks there is in a list of words with spaces between them what the words hold. -/
theorem filter_intercalate (ws : List (List Char)) :
    (List.intercalate [' '] ws).filter (!Text.isBlank ·) = ws.flatten.filter (!Text.isBlank ·) := by
  induction ws with
  | nil => rfl
  | cons w ws ih =>
    cases ws with
    | nil => rw [List.intercalate_singleton, List.flatten_singleton]
    | cons v vs =>
      rw [List.intercalate_cons_cons, List.flatten_cons, List.filter_append, List.filter_append, List.filter_append, ih]
      simp [Text.isBlank]

/-- **Only blanks are collapsed.** -/
theorem filter_collapseBlanks (cs : List Char) :
    (collapseBlanks cs).filter (!Text.isBlank ·) = cs.filter (!Text.isBlank ·) := by
  unfold collapseBlanks
  rw [filter_intercalate, Text.flatten_words, List.filter_filter]
  simp

theorem mem_collapseBlanks (hc : Text.isBlank c = false) (hmem : c ∈ cs) : c ∈ collapseBlanks cs := by
  have hfilter : c ∈ (collapseBlanks cs).filter (!Text.isBlank ·) := by
    rw [filter_collapseBlanks]
    exact List.mem_filter.mpr ⟨hmem, by simp [hc]⟩
  exact (List.mem_filter.mp hfilter).1

/-! ## The tag -/

/-- **The tag of a paired text** is what its two other passes make of what stands outside its groups. -/
theorem tagText_of_paired (h : Paired cs) : tagText cs = collapseBlanks (dropModifiers (outside 0 cs)) := by
  rw [tagText, dropAllGroups_of_paired h]

/-- **The tag of any other text** has a parenthesis. -/
theorem paren_mem_tagText (h : ¬ Paired cs) : '(' ∈ tagText cs ∨ ')' ∈ tagText cs := by
  refine (paren_mem_dropAllGroups h).imp ?_ ?_
  · exact fun hmem => mem_collapseBlanks (by decide) (mem_dropModifiers (.inl rfl) hmem)
  · exact fun hmem => mem_collapseBlanks (by decide) (mem_dropModifiers (.inr rfl) hmem)

end DumpSummary.Record
