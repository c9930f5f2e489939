import DumpSummary.Text.Blank
import Mathlib.Data.List.TakeWhile

/-!
# The words of a text

A text is blanks, a word, blanks, a word and so on.  Its words are found by one reader that remembers the run it is in;
here they are told by where they stand, and an induction along them spares later proofs the reader.

## Contents

* `Unbroken`: what a word is;
* `words_append_of_blank`, `words_append_of_unbroken`, `exists_words_append`: where words stand;
* `words_induction`: **induction along the words**;
* `unbroken_of_mem_words`, `flatten_words`, `words_intercalate`: what the words are, and that they can be read back.
-/

namespace DumpSummary.Text

/-- A run of characters that are not blank. -/
structure Unbroken (w : List Char) : Prop where
  /-- It is not empty. -/
  ne_nil : w ≠ []
  /-- There is no blank in it. -/
  notBlank : ∀ c ∈ w, isBlank c = false

variable {b w cs rest : List Char}

/-- Behind all characters of a class, from the head of a text on, stands none of it. -/
theorem of_mem_head?_dropWhile (p : Char → Bool) (cs : List Char) : ∀ c ∈ (cs.dropWhile p).head?, p c = false := by
  intro c hc
  have hhead := List.head?_dropWhile_not p cs
  rw [Option.mem_def.mp hc] at hhead
  exact hhead

/-! ## Where words stand -/

/-- A run of words goes on over characters that are not blank. -/
theorem words_loop_append (h : ∀ c ∈ w, isBlank c = false) (cs run : List Char) :
    words.loop (w ++ cs) run = words.loop cs (w.reverse ++ run) := by
  induction w generalizing run with
  | nil => rfl
  | cons c w ih =>
    have hc : ¬ isBlank c = true := by simp [h c List.mem_cons_self]
    have hstep : words.loop (c :: w ++ cs) run = words.loop (w ++ cs) (c :: run) := if_neg hc
    rw [hstep, ih (fun x hx => h x (List.mem_cons_of_mem c hx)), List.reverse_cons, List.append_assoc]
    rfl

/-- Blanks before a text hold no word. -/
theorem words_append_of_blank (h : ∀ c ∈ b, isBlank c = true) (cs : List Char) : words (b ++ cs) = words cs := by
  induction b with
  | nil => rfl
  | cons c b ih =>
    have hstep : words (c :: b ++ cs) = words (b ++ cs) := if_pos (h c List.mem_cons_self)
    rw [hstep, ih fun d hd => h d (List.mem_cons_of_mem c hd)]

theorem words_of_blank (h : ∀ c ∈ b, isBlank c = true) : words b = [] := by
  have hwords := words_append_of_blank h []
  rwa [List.append_nil] at hwords

/-- A word ends before a blank and at the end of the text. -/
theorem words_append_of_unbroken (h : Unbroken w) (hrest : ∀ c ∈ rest.head?, isBlank c = true) :
    words (w ++ rest) = w :: words rest := by
  have hrun : ¬ w.reverse.isEmpty = true := by simpa using h.ne_nil
  have hloop : words (w ++ rest) = words.loop rest w.reverse := by
    show words.loop (w ++ rest) [] = _
    rw [words_loop_append h.notBlank, List.append_nil]
  rw [hloop]
  cases rest with
  | nil =>
    rw [words.loop, if_neg hrun, List.reverse_reverse]
    rfl
  | cons c rest =>
    have hc : isBlank c = true := hrest c rfl
    have hskip : words (c :: rest) = words rest := if_pos hc
    rw [words.loop, if_pos hc, if_neg hrun, List.reverse_reverse, hskip]
    rfl

/-- Behind all that is not blank stands a blank, or the end. -/
theorem isBlank_head?_dropWhile (cs : List Char) : ∀ c ∈ (cs.dropWhile (!isBlank ·)).head?, isBlank c = true := by
  intro c hc
  simpa using of_mem_head?_dropWhile (!isBlank ·) cs c hc

/-- A word with any text behind it begins the first word of the whole. -/
theorem exists_words_append (h : Unbroken w) (cs : List Char) : ∃ v vs, words (w ++ cs) = (w ++ v) :: vs := by
  have hword : Unbroken (w ++ cs.takeWhile (!isBlank ·)) := by
    refine ⟨List.append_ne_nil_of_left_ne_nil h.ne_nil _, fun c hc => ?_⟩
    rcases List.mem_append.mp hc with hw | hcs
    · exact h.notBlank c hw
    · simpa using List.mem_takeWhile_imp hcs
  refine ⟨cs.takeWhile (!isBlank ·), words (cs.dropWhile (!isBlank ·)), ?_⟩
  rw [← words_append_of_unbroken hword (isBlank_head?_dropWhile cs), List.append_assoc, List.takeWhile_append_dropWhile]

theorem words_of_unbroken (h : Unbroken w) : words w = [w] := by
  have hend : words (w ++ []) = w :: words [] := words_append_of_unbroken h fun c hc => by cases hc
  rwa [List.append_nil] at hend

/-- **Induction along the words** of a text: a text is blank, or its first word stands between blanks and the blank, or
the end, that it ends at. -/
theorem words_induction {motive : List Char → Prop} (blank : ∀ b, (∀ c ∈ b, isBlank c = true) → motive b)
    (word : ∀ b w rest, (∀ c ∈ b, isBlank c = true) → Unbroken w → (∀ c ∈ rest.head?, isBlank c = true) →
      motive rest → motive (b ++ (w ++ rest)))
    (cs : List Char) : motive cs := by
  induction hn : cs.length using Nat.strongRecOn generalizing cs with
  | _ n ih =>
    have hcs : cs.takeWhile isBlank ++ cs.dropWhile isBlank = cs := List.takeWhile_append_dropWhile
    have hblank : ∀ c ∈ cs.takeWhile isBlank, isBlank c = true := fun c hc => List.mem_takeWhile_imp hc
    cases htail : cs.dropWhile isBlank with
    | nil => exact blank cs (List.dropWhile_eq_nil_iff.mp htail)
    | cons d tail =>
      -- the first word is as much of `d :: tail` as is not blank
      have hd : isBlank d = false := of_mem_head?_dropWhile isBlank cs d (by rw [htail]; rfl)
      have hword : Unbroken ((d :: tail).takeWhile (!isBlank ·)) :=
        ⟨by simp [hd], fun c hc => by simpa using List.mem_takeWhile_imp hc⟩
      have hlt : ((d :: tail).dropWhile (!isBlank ·)).length < n := by
        have htail_le := (List.dropWhile_sublist (!isBlank ·) (l := tail)).length_le
        have hcs_le := (List.dropWhile_sublist isBlank (l := cs)).length_le
        rw [htail, List.length_cons] at hcs_le
        rw [List.dropWhile_cons, if_pos (by simp [hd])]
        omega
      rw [← hcs, htail, ← List.takeWhile_append_dropWhile (p := (!isBlank ·)) (l := d :: tail)]
      exact word _ _ _ hblank hword (isBlank_head?_dropWhile _) (ih _ hlt _ rfl)

/-! ## What the words are -/

/-- The words of a text are not empty and have no blanks. -/
theorem unbroken_of_mem_words : w ∈ words cs → Unbroken w := by
  induction cs using words_induction with
  | blank b hb =>
    rw [words_of_blank hb]
    exact fun hw => by cases hw
  | word b v rest hb hv hrest ih =>
    rw [words_append_of_blank hb, words_append_of_unbroken hv hrest, List.mem_cons]
    rintro (rfl | hw)
    · exact hv
    · exact ih hw

/-- A word has nothing but characters that are not blank. -/
theorem Unbroken.filter (h : Unbroken w) : w.filter (!isBlank ·) = w :=
  List.filter_eq_self.mpr fun c hc => by simp [h.notBlank c hc]

/-- **Every character that is not blank** stands in a word, in order. -/
theorem flatten_words (cs : List Char) : (words cs).flatten = cs.filter (!isBlank ·) := by
  have hfilter : ∀ b : List Char, (∀ c ∈ b, isBlank c = true) → b.filter (!isBlank ·) = [] := fun b hb =>
    List.filter_eq_nil_iff.mpr fun c hc => by simp [hb c hc]
  induction cs using words_induction with
  | blank b hb => rw [words_of_blank hb, hfilter b hb, List.flatten_nil]
  | word b w rest hb hw hrest ih =>
    rw [words_append_of_blank hb, words_append_of_unbroken hw hrest, List.flatten_cons, ih, List.filter_append,
      List.filter_append, hfilter b hb, hw.filter, List.nil_append]

/-- **Words can be read back** from the text that puts a space between them. -/
theorem words_intercalate {ws : List (List Char)} (h : ∀ w ∈ ws, Unbroken w) :
    words (List.intercalate [' '] ws) = ws := by
  induction ws with
  | nil => rfl
  | cons w ws ih =>
    have hw : Unbroken w := h w List.mem_cons_self
    have htail := ih fun v hv => h v (List.mem_cons_of_mem w hv)
    cases ws with
    | nil => rw [List.intercalate_singleton, words_of_unbroken hw]
    | cons v vs =>
      have hspace : ∀ c ∈ [' '], isBlank c = true := List.forall_mem_singleton.mpr rfl
      have hbehind : words ([' '] ++ List.intercalate [' '] (v :: vs)) = v :: vs :=
        (words_append_of_blank hspace _).trans htail
      rw [List.intercalate_cons_cons, List.append_assoc, words_append_of_unbroken hw, hbehind]
      intro c hc
      obtain rfl : ' ' = c := Option.some.inj hc
      rfl

end DumpSummary.Text
