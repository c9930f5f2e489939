import DumpSummary.Proofs.Dialect.LetterCase
import DumpSummary.Proofs.Text.Words
import DumpSummary.Record.TypeTag

/-!
# Deleting sign words

A sign word is read letter by letter, in any case, and up to the edge of a word.  Said with the whole run of word
characters that a text begins with, that run is a sign word: nothing of it is left over, and nothing before it matters.
Deleting does not change the run that a text begins with, so no deletion brings a new sign word about, and a text from
which they have been deleted has none.

## Contents

* `SignWord`, `modifierEnd?_eq_some_iff`: what is read as a sign word;
* `takeWhile_dropModifiers`, `dropWhile_dropModifiers`: what deleting sign words does not change;
* `NoSignAhead`, `Unmodified`: no sign word stands behind a blank;
* `unmodified_dropModifiers`, `dropModifiers_of_unmodified`: **deleting leaves none**, and nothing else is deleted.
-/

namespace DumpSummary

open Text (caseless isWord isBlank)

/-! ## Blanks and word characters -/

/-- The codes of the blanks. -/
def Text.blankCodes : List Nat :=
  List.range' 9 5 ++ List.range' 28 5 ++ [0x85, 0xa0, 0x1680] ++ List.range' 0x2000 11 ++
    [0x2028, 0x2029, 0x202f, 0x205f, 0x3000]

/-- A blank is no word character. -/
theorem Text.isWord_of_isBlank {c : Char} (h : isBlank c = true) : isWord c = false := by
  have hcode : c.toNat ∈ blankCodes := by
    simp only [isBlank, Bool.or_eq_true, Bool.and_eq_true, decide_eq_true_eq, beq_iff_eq] at h
    simp only [blankCodes, List.mem_append, List.mem_range'_1, List.mem_cons, List.not_mem_nil, or_false]
    omega
  have hall : ∀ n ∈ blankCodes, isWord (Char.ofNat n) = false := by decide +kernel
  rw [← Char.ofNat_toNat c]
  exact hall _ hcode

namespace Record

variable {c : Char} {cs rest u v w : List Char}

/-! ## Reading a sign word -/

/-- A word that tells how numbers are signed and shown, in any case. -/
def SignWord (v : List Char) : Prop := ∃ w ∈ modifierWords, v.map caseless = w.map caseless

theorem isWord_of_mem_modifierWords (hw : w ∈ modifierWords) (hc : c ∈ w) : isWord c = true := by
  have hall : modifierWords.all (·.all isWord) = true := by decide
  exact List.all_eq_true.mp (List.all_eq_true.mp hall w hw) c hc

/-- Texts of the same length agree letter by letter if they are the same but for case. -/
theorem all_zip_iff (h : v.length = w.length) :
    ((v.zip w).all fun p => caseless p.1 == caseless p.2) = true ↔ v.map caseless = w.map caseless := by
  induction v generalizing w with
  | nil =>
    cases w with
    | nil => simp
    | cons d w => cases h
  | cons c v ih =>
    cases w with
    | nil => cases h
    | cons d w =>
      rw [List.zip_cons_cons, List.all_cons, Bool.and_eq_true, beq_iff_eq, ih (Nat.succ.inj h), List.map_cons,
        List.map_cons, List.cons.injEq]

/-- Word characters before an edge are the whole run that a text begins with. -/
theorem takeWhile_isWord_append (hv : ∀ c ∈ v, isWord c = true) (hedge : ∀ c ∈ rest.head?, isWord c = false) :
    (v ++ rest).takeWhile isWord = v ∧ (v ++ rest).dropWhile isWord = rest := by
  rw [List.takeWhile_append_of_pos hv, List.dropWhile_append_of_pos hv]
  cases rest with
  | nil => exact ⟨List.append_nil v, rfl⟩
  | cons c rest =>
    have hc : ¬ isWord c = true := by simp [hedge c rfl]
    rw [List.takeWhile_cons_of_neg hc, List.dropWhile_cons_of_neg hc, List.append_nil]
    exact ⟨rfl, rfl⟩

theorem takeWhile_dropWhile_isWord (cs : List Char) : (cs.dropWhile isWord).takeWhile isWord = [] := by
  have hnil : ∀ c ∈ ([] : List Char), isWord c = true := fun c hc => by cases hc
  exact (takeWhile_isWord_append hnil (Text.of_mem_head?_dropWhile isWord cs)).1

/-- Reads a word at the head of a text, in any case and up to a word edge; the rest. -/
def wordEnd? (w cs : List Char) : Option (List Char) :=
  if (cs.take w.length).length = w.length && ((cs.take w.length).zip w).all (fun p => caseless p.1 == caseless p.2)
      && !(cs.drop w.length).head?.any isWord then
    some (cs.drop w.length)
  else none

theorem modifierEnd?_eq (cs : List Char) : modifierEnd? cs = modifierWords.findSome? (wordEnd? · cs) := rfl

/-- A word is read exactly if it is, but for case, the run of word characters that the text begins with. -/
theorem wordEnd?_eq_some_iff (hw : ∀ c ∈ w, isWord c = true) :
    wordEnd? w cs = some rest ↔
      (cs.takeWhile isWord).map caseless = w.map caseless ∧ rest = cs.dropWhile isWord := by
  unfold wordEnd?
  constructor
  · intro h
    split at h
    · rename_i hword
      rw [Bool.and_eq_true, Bool.and_eq_true, decide_eq_true_eq] at hword
      obtain ⟨⟨hlength, hletters⟩, hedge⟩ := hword
      rw [all_zip_iff hlength] at hletters
      have hhead : ∀ c ∈ cs.take w.length, isWord c = true := by
        intro c hc
        have hmem : caseless c ∈ w.map caseless := hletters ▸ List.mem_map_of_mem hc
        obtain ⟨d, hd, hcd⟩ := List.mem_map.mp hmem
        exact Text.isWord_eq_of_caseless_eq hcd ▸ hw d hd
      have hrest : ∀ c ∈ (cs.drop w.length).head?, isWord c = false := by
        intro c hc
        rw [Option.mem_def.mp hc] at hedge
        simpa using hedge
      obtain ⟨hrun, hbehind⟩ := takeWhile_isWord_append hhead hrest
      rw [List.take_append_drop] at hrun hbehind
      rw [hrun, hbehind]
      exact ⟨hletters, (Option.some.inj h).symm⟩
    · cases h
  · rintro ⟨hrun, rfl⟩
    have hlength : (cs.takeWhile isWord).length = w.length := by
      simpa using congrArg List.length hrun
    have htake : cs.take w.length = cs.takeWhile isWord := by
      rw [← hlength]
      exact (List.prefix_iff_eq_take.mp (List.takeWhile_prefix isWord)).symm
    have hdrop : cs.drop w.length = cs.dropWhile isWord := by
      have hcs := List.take_append_drop w.length cs
      nth_rewrite 3 [← List.takeWhile_append_dropWhile (p := isWord) (l := cs)] at hcs
      rw [htake] at hcs
      exact List.append_cancel_left hcs
    have hedge : (!(cs.dropWhile isWord).head?.any isWord) = true := by
      have hhead := Text.of_mem_head?_dropWhile isWord cs
      cases hbehind : (cs.dropWhile isWord).head? with
      | none => rfl
      | some c => simp [hhead c hbehind]
    rw [htake, hdrop, (all_zip_iff hlength).mpr hrun, hedge, hlength]
    simp

/-- **What is read as a sign word** is the run of word characters that a text begins with. -/
theorem modifierEnd?_eq_some_iff :
    modifierEnd? cs = some rest ↔ SignWord (cs.takeWhile isWord) ∧ rest = cs.dropWhile isWord := by
  have hread : ∀ {rest}, modifierEnd? cs = some rest → SignWord (cs.takeWhile isWord) ∧ rest = cs.dropWhile isWord := by
    intro rest h
    obtain ⟨w, hw, hend⟩ := List.exists_of_findSome?_eq_some h
    obtain ⟨hrun, hrest⟩ := (wordEnd?_eq_some_iff fun _ => isWord_of_mem_modifierWords hw).mp hend
    exact ⟨⟨w, hw, hrun⟩, hrest⟩
  refine ⟨hread, ?_⟩
  rintro ⟨⟨w, hw, hrun⟩, rfl⟩
  cases h : modifierEnd? cs with
  | some rest => rw [(hread h).2]
  | none =>
    -- the word itself would have been read
    have hend := (wordEnd?_eq_some_iff fun _ => isWord_of_mem_modifierWords hw).mpr ⟨hrun, rfl⟩
    rw [modifierEnd?_eq, List.findSome?_eq_none_iff] at h
    rw [h w hw] at hend
    cases hend

theorem modifierEnd?_eq_none_iff : modifierEnd? cs = none ↔ ¬ SignWord (cs.takeWhile isWord) := by
  constructor
  · intro h hsign
    rw [modifierEnd?_eq_some_iff.mpr ⟨hsign, rfl⟩] at h
    cases h
  · intro h
    cases hend : modifierEnd? cs with
    | none => rfl
    | some rest => exact absurd (modifierEnd?_eq_some_iff.mp hend).1 h

/-! ## Deleting sign words -/

/-- Nothing is added. -/
theorem dropModifiers_sublist (cs : List Char) : (dropModifiers cs).Sublist cs := by
  fun_induction dropModifiers cs with
  | case1 => exact .slnil
  | case2 c cs hblank rest hend ih =>
    obtain ⟨-, rfl⟩ := modifierEnd?_eq_some_iff.mp hend
    exact ((ih.trans (List.dropWhile_sublist _)).trans (List.dropWhile_sublist _)).cons c
  | case3 c cs hblank hend ih => exact ih.cons_cons c
  | case4 c cs hblank ih => exact ih.cons_cons c

/-- **The run of word characters** that a text begins with is not changed. -/
theorem takeWhile_dropModifiers (cs : List Char) : (dropModifiers cs).takeWhile isWord = cs.takeWhile isWord := by
  have hblankRun : ∀ {c cs}, isBlank c = true → (c :: cs).takeWhile isWord = [] := fun hblank =>
    List.takeWhile_cons_of_neg (by simp [Text.isWord_of_isBlank hblank])
  fun_induction dropModifiers cs with
  | case1 => rfl
  | case2 c cs hblank rest hend ih =>
    rw [ih, (modifierEnd?_eq_some_iff.mp hend).2, takeWhile_dropWhile_isWord, hblankRun hblank]
  | case3 c cs hblank hend ih => rw [hblankRun hblank, hblankRun hblank]
  | case4 c cs hblank ih => rw [List.takeWhile_cons, List.takeWhile_cons, ih]

/-- No sign word stands behind the blanks before a text. -/
def NoSignAhead (cs : List Char) : Prop := ¬ SignWord ((cs.dropWhile isBlank).takeWhile isWord)

theorem dropModifiers_nil : dropModifiers [] = [] := by
  unfold dropModifiers
  rfl

/-- A character is kept if it is not blank, and a blank if no sign word stands behind it. -/
theorem dropModifiers_cons (h : isBlank c = true → NoSignAhead cs) :
    dropModifiers (c :: cs) = c :: dropModifiers cs := by
  conv_lhs => unfold dropModifiers
  by_cases hblank : isBlank c = true
  · rw [if_pos hblank]
    split
    · rename_i rest hend
      exact absurd (modifierEnd?_eq_some_iff.mp hend).1 (h hblank)
    · rfl
  · rw [if_neg hblank]

/-- **Blanks** that no sign word follows are not changed. -/
theorem dropWhile_dropModifiers (h : NoSignAhead cs) :
    (dropModifiers cs).dropWhile isBlank = dropModifiers (cs.dropWhile isBlank) := by
  induction cs with
  | nil => rw [dropModifiers_nil, List.dropWhile_nil, dropModifiers_nil]
  | cons c cs ih =>
    by_cases hblank : isBlank c = true
    · have hcs : NoSignAhead cs := by
        unfold NoSignAhead at h ⊢
        rwa [List.dropWhile_cons_of_pos hblank] at h
      rw [dropModifiers_cons fun _ => hcs, List.dropWhile_cons_of_pos hblank, List.dropWhile_cons_of_pos hblank, ih hcs]
    · have hkept : dropModifiers (c :: cs) = c :: dropModifiers cs := dropModifiers_cons fun h => absurd h hblank
      rw [hkept, List.dropWhile_cons_of_neg hblank, List.dropWhile_cons_of_neg hblank, hkept]

/-- No sign word stands behind a blank. -/
def Unmodified : List Char → Prop
  | [] => True
  | c :: cs => (isBlank c = true → NoSignAhead cs) ∧ Unmodified cs

/-- **Deleting sign words leaves none** behind a blank: none that stood there, and none that a deletion brings there. -/
theorem unmodified_dropModifiers (cs : List Char) : Unmodified (dropModifiers cs) := by
  fun_induction dropModifiers cs with
  | case1 => trivial
  | case2 c cs hblank rest hend ih => exact ih
  | case3 c cs hblank hend ih =>
    have hahead : NoSignAhead cs := modifierEnd?_eq_none_iff.mp hend
    refine ⟨fun _ => ?_, ih⟩
    unfold NoSignAhead at hahead ⊢
    rwa [dropWhile_dropModifiers hahead, takeWhile_dropModifiers]
  | case4 c cs hblank ih => exact ⟨fun h => absurd h hblank, ih⟩

/-- Where none stands behind a blank there is nothing to delete. -/
theorem dropModifiers_of_unmodified (h : Unmodified cs) : dropModifiers cs = cs := by
  fun_induction dropModifiers cs with
  | case1 => rfl
  | case2 c cs hblank rest hend ih => exact absurd (modifierEnd?_eq_some_iff.mp hend).1 (h.1 hblank)
  | case3 c cs hblank hend ih => rw [ih h.2]
  | case4 c cs hblank ih => rw [ih h.2]

end Record
end DumpSummary
