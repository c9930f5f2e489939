import DumpSummary.Proofs.Dialect.Occurrence

/-!
# The dialect and the case of letters

The dialect of a dump does not depend on the case of its letters.  More holds: it does not change either if a letter
of ASCII is replaced by a character that looks like it and stands for it when case is ignored, such as the long s.

Two characters that stand for the same one are both of a word or both not, both blank or both not, and a sign that
belongs to no word stands for itself alone.  So a pattern cannot tell them apart if the signs that it names as such are no
word characters, which is checked of each of them.

## Contents

* `caseless_induction`: the characters by what they stand for;
* `isWord_caseless`, `isBlank_caseless`, `eq_iff_of_caseless_eq`: what case does not change;
* `CharClass.ignoresCase`, `blind_caseless`: patterns that ignore case;
* `detect_caseless`: **characters that stand for the same one**;
* `detect_letterCase`: **letters that differ in case.**
-/

namespace DumpSummary

open Text (caseless isWord isBlank)

namespace Text

/-! ## Characters that stand for the same one -/

/-- The codes of the characters that stand for another one: the capitals of ASCII, and the characters outside it that
look like one of its letters. -/
def foldedCodes : List Nat := List.range' 65 26 ++ [0x17f, 0x212a, 0x131, 0x130]

theorem toLower_of_notMem {c : Char} (h : c.toNat ∉ foldedCodes) : c.toLower = c := by
  have hcapital : ¬(c.val ≥ 'A'.val ∧ c.val ≤ 'Z'.val) := by
    rintro ⟨hfirst, hlast⟩
    have hfirst : 65 ≤ c.toNat := hfirst
    have hlast : c.toNat ≤ 90 := hlast
    have hmem : c.toNat ∈ List.range' 65 26 := List.mem_range'_1.mpr ⟨hfirst, by omega⟩
    exact h (List.mem_append_left _ hmem)
  exact dif_neg hcapital

theorem caseless_of_notMem {c : Char} (h : c.toNat ∉ foldedCodes) : caseless c = c := by
  have hcode : ∀ n ∈ foldedCodes, c.toNat ≠ n := by
    rintro n hn rfl
    exact h hn
  have hlong : c.toNat ≠ 0x17f := hcode _ (by decide)
  have hKelvin : c.toNat ≠ 0x212a := hcode _ (by decide)
  have hdotless : c.toNat ≠ 0x131 := hcode _ (by decide)
  have hdotted : c.toNat ≠ 0x130 := hcode _ (by decide)
  unfold caseless
  simp [hlong, hKelvin, hdotless, hdotted, toLower_of_notMem h]

/-- **Characters by what they stand for**: few stand for another one, and all others stand for themselves. -/
theorem caseless_induction {motive : Char → Prop} (folded : ∀ n ∈ foldedCodes, motive (Char.ofNat n))
    (other : ∀ c, c.toLower = c → caseless c = c → motive c) (c : Char) : motive c := by
  by_cases h : c.toNat ∈ foldedCodes
  · rw [← Char.ofNat_toNat c]
    exact folded c.toNat h
  · exact other c (toLower_of_notMem h) (caseless_of_notMem h)

theorem isWord_caseless (c : Char) : isWord (caseless c) = isWord c := by
  induction c using caseless_induction with
  | folded n hn => revert n; decide +kernel
  | other c _ h => rw [h]

theorem isBlank_caseless (c : Char) : isBlank (caseless c) = isBlank c := by
  induction c using caseless_induction with
  | folded n hn => revert n; decide +kernel
  | other c _ h => rw [h]

/-- A letter and the same letter in the other case stand for the same character. -/
theorem caseless_toLower (c : Char) : caseless c.toLower = caseless c := by
  induction c using caseless_induction with
  | folded n hn => revert n; decide +kernel
  | other c h _ => rw [h]

/-- What belongs to no word stands for itself. -/
theorem caseless_of_not_isWord (c : Char) : isWord c = false → caseless c = c := by
  induction c using caseless_induction with
  | folded n hn => revert n; decide +kernel
  | other c _ h => exact fun _ => h

variable {x y : Char}

theorem isWord_eq_of_caseless_eq (h : caseless x = caseless y) : isWord x = isWord y := by
  rw [← isWord_caseless x, h, isWord_caseless]

theorem isBlank_eq_of_caseless_eq (h : caseless x = caseless y) : isBlank x = isBlank y := by
  rw [← isBlank_caseless x, h, isBlank_caseless]

/-- A sign that belongs to no word is not confused with any other character. -/
theorem eq_of_caseless_eq (h : caseless x = caseless y) (hx : isWord x = false) : x = y := by
  have hy : isWord y = false := isWord_eq_of_caseless_eq h ▸ hx
  rw [caseless_of_not_isWord x hx, caseless_of_not_isWord y hy] at h
  exact h

theorem eq_iff_of_caseless_eq {c : Char} (h : caseless x = caseless y) (hc : isWord c = false) : x = c ↔ y = c := by
  constructor
  · rintro rfl
    exact (eq_of_caseless_eq h hc).symm
  · rintro rfl
    exact (eq_of_caseless_eq h.symm hc).symm

end Text

namespace Dialect

open Text

/-! ## Patterns that ignore case -/

/-- Whether a class of characters ignores case: a sign that it names beside the word characters, or excludes, is none of
them. -/
def CharClass.ignoresCase : CharClass → Bool
  | .wordOr c | .insideOf c => !isWord c
  | _ => true

variable {x y : Char}

theorem CharClass.accepts_of_caseless_eq {k : CharClass} (hk : k.ignoresCase = true) (h : caseless x = caseless y) :
    k.accepts x = k.accepts y := by
  cases k with
  | only c =>
    show (caseless x == caseless c) = (caseless y == caseless c)
    rw [h]
  | blank => exact isBlank_eq_of_caseless_eq h
  | word => exact isWord_eq_of_caseless_eq h
  | wordOr c =>
    have hsign : x = c ↔ y = c := eq_iff_of_caseless_eq h (by simpa [ignoresCase] using hk)
    simp [CharClass.accepts, isWord_eq_of_caseless_eq h, Bool.beq_eq_decide_eq, hsign]
  | insideOf c =>
    have hsign : x = c ↔ y = c := eq_iff_of_caseless_eq h (by simpa [ignoresCase] using hk)
    have hbreak : x = '\n' ↔ y = '\n' := eq_iff_of_caseless_eq h (by decide)
    simp [CharClass.accepts, hsign, hbreak]

/-- A pattern whose classes ignore case cannot tell characters apart that stand for the same one. -/
theorem blind_caseless {p : Pattern} (h : ∀ i ∈ p, ∀ k ∈ i.class?, k.ignoresCase = true) :
    Blind (fun x y => caseless x = caseless y) p where
  accepts i hi k hk := CharClass.accepts_of_caseless_eq (h i hi k hk)
  neighbour := by
    intro x y hxy
    have hbreak : x = '\n' ↔ y = '\n' := eq_iff_of_caseless_eq hxy (by decide)
    constructor
    · simp [Bool.beq_eq_decide_eq, hbreak]
    · simp [isWord_eq_of_caseless_eq hxy]

theorem ignoresCase_of_mem_allSigns {p : Pattern} (h : p ∈ allSigns) :
    ∀ i ∈ p, ∀ k ∈ i.class?, k.ignoresCase = true := by
  have hall : ∀ p ∈ allSigns, ∀ i ∈ p, ∀ k ∈ i.class?, k.ignoresCase = true := by decide
  exact hall p h

/-! ## Texts that differ in case -/

variable {a b : String}

/-- **Characters that stand for the same one**: texts that agree in what their characters stand for have the same
dialect. -/
theorem detect_caseless (h : List.Forall₂ (fun x y => caseless x = caseless y) a.toList b.toList) :
    detect a = detect b := by
  apply detect_congr
  intro p hp
  exact occursIn_congr (blind_caseless (ignoresCase_of_mem_allSigns hp)) h

/-- **Letters that differ in case**: texts that agree but for the case of their ASCII letters have the same dialect,
whatever other characters they hold. -/
theorem detect_letterCase (h : a.toList.map Char.toLower = b.toList.map Char.toLower) : detect a = detect b := by
  apply detect_caseless
  have hlower : List.Forall₂ (fun x y : Char => x.toLower = y.toLower) a.toList b.toList := by
    rw [← List.forall₂_eq_eq_eq] at h
    exact List.forall₂_map_left_iff.mp (List.forall₂_map_right_iff.mp h)
  refine hlower.imp fun x y hxy => ?_
  rw [← caseless_toLower x, hxy, caseless_toLower]

/-- Capitals and small letters, with the long s and the dotless i among them. -/
theorem detect_letterCase_identity :
    let a := "x \u0131dentity (1), \u017fet  Identity_\u0131nsert T on\nGo"
    let b := "X \u0131DENTITY (1), \u017fET  iDENTITY_\u0131NSERT t ON\ngO"
    a.toList.map Char.toLower = b.toList.map Char.toLower ∧ detect a = "tsql" ∧ detect b = "tsql" := by
  intro a b
  have hsame : a.toList.map Char.toLower = b.toList.map Char.toLower := by decide +kernel
  have hdialect : detect a = "tsql" := by decide +kernel
  exact ⟨hsame, hdialect, (detect_letterCase hsame).symm.trans hdialect⟩

end Dialect
end DumpSummary
