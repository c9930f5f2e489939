import DumpSummary.Proofs.Record.Removal
import DumpSummary.Proofs.Record.SignWord

/-!
# The tag of a word with parameters

The tag of a type is what three passes leave of its text.  Where the text is a word, with or without parameters in
parentheses behind it, they leave the word.

## Contents

* `dropAllGroups_eq_self`, `dropAllGroups_group`: what stands in parentheses is deleted;
* `dropModifiers_eq_self`, `collapseBlanks_eq_self`: in a word there is nothing else to delete;
* `tagText_word`, `tagText_word_group`: the tag of a word, and of a word with one group.
-/

namespace DumpSummary.Record

variable {w cs : List Char}

/-- All passes leave text as it is that opens no group. -/
theorem dropAllGroups_eq_self (h : '(' ∉ w) : dropAllGroups w = w :=
  dropAllGroups_eq_iff.mpr ⟨.refl w, settled_of_notMem h⟩

/-- One group behind a word is deleted. -/
theorem dropAllGroups_group (h : '(' ∉ w) (hcs : '(' ∉ cs ∧ ')' ∉ cs) :
    dropAllGroups (w ++ ('(' :: cs ++ [')'])) = w := by
  have hgroup : Leaves ('(' :: cs ++ [')']) [] := .group (depth?_of_noParens hcs 0) .nil
  have hleaves : Leaves (w ++ ('(' :: cs ++ [')'])) (w ++ []) := (Leaves.refl w).append hgroup
  rw [List.append_nil] at hleaves
  exact dropAllGroups_eq_iff.mpr ⟨hleaves, settled_of_notMem h⟩

/-- The deletion of sign words goes over text without blanks. -/
theorem dropModifiers_append (h : ∀ c ∈ w, Text.isBlank c = false) (cs : List Char) :
    dropModifiers (w ++ cs) = w ++ dropModifiers cs := by
  induction w with
  | nil => rfl
  | cons c w ih =>
    have hc : ¬ Text.isBlank c = true := by simp [h c List.mem_cons_self]
    rw [List.cons_append, dropModifiers_cons fun hblank => absurd hblank hc,
      ih fun x hx => h x (List.mem_cons_of_mem c hx), List.cons_append]

/-- Without blanks there is no sign word to delete. -/
theorem dropModifiers_eq_self (h : ∀ c ∈ w, Text.isBlank c = false) : dropModifiers w = w := by
  have hw := dropModifiers_append h []
  rwa [List.append_nil, dropModifiers_nil, List.append_nil] at hw

/-- There is nothing to collapse in a word. -/
theorem collapseBlanks_eq_self (h : ∀ c ∈ w, Text.isBlank c = false) (hne : w ≠ []) : collapseBlanks w = w := by
  unfold collapseBlanks
  rw [Text.words_of_unbroken ⟨hne, h⟩, List.intercalate_singleton]

/-- **The tag of a word** is the word. -/
theorem tagText_word (h : ∀ c ∈ w, Text.isBlank c = false) (hopen : '(' ∉ w) (hne : w ≠ []) : tagText w = w := by
  unfold tagText
  rw [dropAllGroups_eq_self hopen, dropModifiers_eq_self h, collapseBlanks_eq_self h hne]

/-- **The tag of a word with parameters** is the word. -/
theorem tagText_word_group (h : ∀ c ∈ w, Text.isBlank c = false) (hopen : '(' ∉ w) (hne : w ≠ [])
    (hcs : '(' ∉ cs ∧ ')' ∉ cs) : tagText (w ++ ('(' :: cs ++ [')'])) = w := by
  unfold tagText
  rw [dropAllGroups_group hopen hcs, dropModifiers_eq_self h, collapseBlanks_eq_self h hne]

end DumpSummary.Record
