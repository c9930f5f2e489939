import DumpSummary.Proofs.Record.Groups

/-!
# The normal form of a type's text

The tag of a type is what three passes leave of its text.  Each pass brings about what it is for: no parenthesis opens
before another one closes, no sign word stands behind a blank, and there are no blanks but one space between words.  The
later passes keep what the earlier ones have brought about, for they add nothing and the words stay as they are.  So a
tag is in normal form, and on a text in normal form the passes do nothing.

## Contents

* `Settled.dropModifiers`, `Settled.collapseBlanks`: parentheses stay as they are;
* `notSign_of_mem_words`, `unmodified_intercalate`: sign words, told by the words of a text;
* `Normal`, `normal_tagText`, `Normal.tagText_eq`: **the normal form**;
* `passes_settle`: **deleting groups, and the passes done twice.**
-/

namespace DumpSummary.Record

open Text (isWord isBlank words Unbroken)
open scoped List

variable {cs rest u v w : List Char} {ws : List (List Char)}

/-! ## Parentheses -/

theorem Settled.of_sublist (h : Settled cs) (hsub : w <+ cs) : Settled w := fun hparens => h (hparens.trans hsub)

theorem Settled.dropModifiers (h : Settled cs) : Settled (dropModifiers cs) := h.of_sublist (dropModifiers_sublist cs)

/-- Parentheses are not blank, so they stand in the same order when blanks are collapsed. -/
theorem Settled.collapseBlanks (h : Settled cs) : Settled (collapseBlanks cs) := by
  intro hparens
  have hfilter := hparens.filter (!isBlank ·)
  rw [filter_collapseBlanks] at hfilter
  exact h (hfilter.trans List.filter_sublist)

/-! ## Sign words -/

/-- A blank, or the end, behind a text ends the run of word characters that it begins with. -/
theorem takeWhile_append_of_blank (hrest : ∀ c ∈ rest.head?, isBlank c = true) :
    (w ++ rest).takeWhile isWord = w.takeWhile isWord := by
  induction w with
  | nil =>
    cases rest with
    | nil => rfl
    | cons c rest => exact List.takeWhile_cons_of_neg (by simp [Text.isWord_of_isBlank (hrest c rfl)])
  | cons c w ih => rw [List.cons_append, List.takeWhile_cons, List.takeWhile_cons, ih]

/-- What stands behind the blanks before a word is told by the word. -/
theorem noSignAhead_iff (hu : ∀ c ∈ u, isBlank c = true) (hw : Unbroken w)
    (hrest : ∀ c ∈ rest.head?, isBlank c = true) :
    NoSignAhead (u ++ (w ++ rest)) ↔ ¬ SignWord (w.takeWhile isWord) := by
  obtain ⟨c, v, rfl⟩ := List.exists_cons_of_ne_nil hw.ne_nil
  have hc : ¬ isBlank c = true := by simp [hw.notBlank c List.mem_cons_self]
  have hdrop : (u ++ (c :: v ++ rest)).dropWhile isBlank = c :: v ++ rest := by
    rw [List.dropWhile_append_of_pos hu]
    exact List.dropWhile_cons_of_neg hc
  unfold NoSignAhead
  rw [hdrop, takeWhile_append_of_blank hrest]

theorem Unmodified.of_append (h : Unmodified (u ++ v)) : Unmodified v := by
  induction u with
  | nil => exact h
  | cons c u ih => exact ih h.2

/-- Before a blank stands no sign word that counts. -/
theorem unmodified_append (hw : ∀ c ∈ w, isBlank c = false) (h : Unmodified cs) : Unmodified (w ++ cs) := by
  induction w with
  | nil => exact h
  | cons c w ih =>
    refine ⟨fun hblank => ?_, ih fun d hd => hw d (List.mem_cons_of_mem c hd)⟩
    rw [hw c List.mem_cons_self] at hblank
    cases hblank

/-- Where no sign word stands behind a blank, no word of a text that begins with a blank is one. -/
theorem notSign_of_mem_words (h : Unmodified cs) (hhead : ∀ c ∈ cs.head?, isBlank c = true) (hw : w ∈ words cs) :
    ¬ SignWord (w.takeWhile isWord) := by
  induction cs using Text.words_induction with
  | blank b hb =>
    rw [Text.words_of_blank hb] at hw
    cases hw
  | word b v rest hb hv hrest ih =>
    rw [Text.words_append_of_blank hb, Text.words_append_of_unbroken hv hrest, List.mem_cons] at hw
    rcases hw with rfl | hw
    · cases b with
      | nil =>
        -- the text begins with a word
        obtain ⟨c, u, rfl⟩ := List.exists_cons_of_ne_nil hv.ne_nil
        have hc := hhead c rfl
        rw [hv.notBlank c List.mem_cons_self] at hc
        cases hc
      | cons c b =>
        have hahead : NoSignAhead (b ++ (w ++ rest)) := h.1 (hb c List.mem_cons_self)
        exact (noSignAhead_iff (fun d hd => hb d (List.mem_cons_of_mem c hd)) hv hrest).mp hahead
    · exact ih h.of_append.of_append hrest hw

/-- Where no sign word stands behind a blank, only the first word of a text can be one. -/
theorem notSign_of_mem_tail_words (h : Unmodified cs) (hw : w ∈ (words cs).tail) : ¬ SignWord (w.takeWhile isWord) := by
  induction cs using Text.words_induction with
  | blank b hb =>
    rw [Text.words_of_blank hb] at hw
    cases hw
  | word b v rest hb hv hrest _ =>
    rw [Text.words_append_of_blank hb, Text.words_append_of_unbroken hv hrest] at hw
    exact notSign_of_mem_words h.of_append.of_append hrest hw

/-- Words with spaces between them, of which only the first one can be a sign word. -/
theorem unmodified_intercalate (h : ∀ w ∈ ws, Unbroken w) (hsign : ∀ w ∈ ws.tail, ¬ SignWord (w.takeWhile isWord)) :
    Unmodified (List.intercalate [' '] ws) := by
  induction ws with
  | nil => trivial
  | cons w ws ih =>
    have hw : Unbroken w := h w List.mem_cons_self
    cases ws with
    | nil =>
      rw [List.intercalate_singleton, ← List.append_nil w]
      exact unmodified_append hw.notBlank trivial
    | cons v vs =>
      have hv : Unbroken v := h v (List.mem_cons_of_mem w List.mem_cons_self)
      have htail : Unmodified (List.intercalate [' '] (v :: vs)) :=
        ih (fun x hx => h x (List.mem_cons_of_mem w hx)) fun x hx => hsign x (List.mem_cons_of_mem v hx)
      -- behind the space stands `v`, and behind `v` a space or the end
      have hahead : NoSignAhead (List.intercalate [' '] (v :: vs)) := by
        have hsplit : ∃ rest, List.intercalate [' '] (v :: vs) = [] ++ (v ++ rest) ∧
            ∀ c ∈ rest.head?, isBlank c = true := by
          cases vs with
          | nil => exact ⟨[], by simp [List.intercalate_singleton], fun c hc => by cases hc⟩
          | cons x xs =>
            refine ⟨[' '] ++ List.intercalate [' '] (x :: xs), by simp [List.intercalate_cons_cons], fun c hc => ?_⟩
            obtain rfl : ' ' = c := Option.some.inj hc
            decide
        obtain ⟨rest, hrest, hhead⟩ := hsplit
        rw [hrest, noSignAhead_iff (fun c hc => by cases hc) hv hhead]
        exact hsign v List.mem_cons_self
      rw [List.intercalate_cons_cons, List.append_assoc]
      exact unmodified_append hw.notBlank ⟨fun _ => hahead, htail⟩

/-- **Collapsing blanks** brings no sign word behind a blank. -/
theorem Unmodified.collapseBlanks (h : Unmodified cs) : Unmodified (collapseBlanks cs) :=
  unmodified_intercalate (fun _ => Text.unbroken_of_mem_words) fun _ => notSign_of_mem_tail_words h

/-! ## The normal form -/

/-- There is nothing left to collapse. -/
theorem collapseBlanks_collapseBlanks (cs : List Char) : collapseBlanks (collapseBlanks cs) = collapseBlanks cs := by
  unfold collapseBlanks
  rw [Text.words_intercalate fun _ => Text.unbroken_of_mem_words]

/-- A text that the passes leave as it is. -/
structure Normal (cs : List Char) : Prop where
  /-- No parenthesis opens before another one closes. -/
  settled : Settled cs
  /-- No sign word stands behind a blank. -/
  unmodified : Unmodified cs
  /-- There are no blanks but one space between words. -/
  collapsed : collapseBlanks cs = cs

/-- **A tag is in normal form.** -/
theorem normal_tagText (cs : List Char) : Normal (tagText cs) where
  settled := (settled_dropAllGroups cs).dropModifiers.collapseBlanks
  unmodified := (unmodified_dropModifiers _).collapseBlanks
  collapsed := collapseBlanks_collapseBlanks _

/-- **On a text in normal form** the passes do nothing. -/
theorem Normal.tagText_eq (h : Normal cs) : tagText cs = cs := by
  unfold tagText
  rw [dropAllGroups_eq_iff.mpr ⟨Leaves.refl cs, h.settled⟩, dropModifiers_of_unmodified h.unmodified, h.collapsed]

/-- **Deleting groups, and the passes done twice.**  Groups are gone after not more passes than there are opening
parentheses: every pass up to then changes the text, and no later one does.  What is left is the one text that deleting
groups can leave in which no parenthesis opens before another one closes; of a paired text it is what stands outside all
groups.  And the tag of a tag is the tag. -/
theorem passes_settle (cs : List Char) :
    (∃ n ≤ cs.count '(', dropGroups^[n] cs = dropAllGroups cs ∧
      ∀ m, dropGroups^[m + 1] cs = dropGroups^[m] cs ↔ n ≤ m) ∧
    (Leaves cs (dropAllGroups cs) ∧ ¬ ['(', ')'] <+ dropAllGroups cs ∧
      ∀ ts, Leaves cs ts → ¬ ['(', ')'] <+ ts → ts = dropAllGroups cs) ∧
    (Paired cs → dropAllGroups cs = outside 0 cs) ∧
    tagText (tagText cs) = tagText cs := by
  refine ⟨exists_passes cs, ⟨leaves_dropAllGroups cs, settled_dropAllGroups cs, ?_⟩, dropAllGroups_of_paired,
    (normal_tagText cs).tagText_eq⟩
  intro ts hleaves hsettled
  exact (dropAllGroups_eq_iff.mpr ⟨hleaves, hsettled⟩).symm

/-- Groups in groups, one of them within a word; and a text that is not paired. -/
theorem passes_settle_nested :
    let nested := "DECIMAL((1)x(2),3) UN(y)SIGNED".toList
    let unpaired := ['a', ')', '(', 'b', '(', 'c', ')']
    Paired nested ∧ dropAllGroups nested = "DECIMAL UNSIGNED".toList ∧ tagText (tagText nested) = tagText nested ∧
      Leaves unpaired ['a', ')', '(', 'b'] ∧ ¬ ['(', ')'] <+ ['a', ')', '(', 'b'] ∧
      ['a', ')', '(', 'b'] = dropAllGroups unpaired := by
  intro nested unpaired
  have hpaired : Paired nested := by decide
  have hleaves : Leaves unpaired ['a', ')', '(', 'b'] :=
    .keep 'a' (.keep ')' (.keep '(' (.keep 'b' (@Leaves.group ['c'] [] [] rfl .nil))))
  have hsettled : ¬ ['(', ')'] <+ ['a', ')', '(', 'b'] := by decide
  obtain ⟨-, -, hnested, htag⟩ := passes_settle nested
  obtain ⟨-, ⟨-, -, honly⟩, -, -⟩ := passes_settle unpaired
  exact ⟨hpaired, (hnested hpaired).trans (by decide), htag, hleaves, hsettled, honly _ hleaves hsettled⟩

end DumpSummary.Record
