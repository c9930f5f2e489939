import DumpSummary.Proofs.Record.Groups
import DumpSummary.Record.OfStatement

/-!
# The tag of a type with parameters

A type is written as its name with its parameters in parentheses.  They leave nothing behind if every parenthesis in
them has its partner, for then they are one group; numbers have no parentheses, so this depends on the strings alone.
Where a parenthesis in a string has none, the groups are cut in other places than the type is written with: what stands
between them gets into the tag, or a parenthesis does.

## Contents

* `Parameter`, `parameterGroup`: parameters as they are written, with `parens_parameterGroup`: what counts of them;
* `Vanishes`, `vanishes_of_paired`, `count_of_vanishes`: parameters that leave nothing behind;
* `tagText_eq_iff`, `tagText_ne_nil`, `prefix_tagText`: the tag of a name with something behind it;
* `typeTag_eq_iff`: **when the tag is the name**; `vanishes_parameterGroup`, `count_of_vanishes_parameterGroup`: what
  this says of the strings.
-/

namespace DumpSummary.Record

open Sql

variable {c : Char} {cs w : List Char}

/-! ## Depth and parentheses -/

/-- An opening or a closing parenthesis. -/
def isParen (c : Char) : Bool := c == '(' || c == ')'

theorem isParen_eq_false : isParen c = false ↔ c ≠ '(' ∧ c ≠ ')' := by
  simp [isParen]

/-- Only parentheses count for the depth. -/
theorem depth?_filter (n : Nat) (cs : List Char) : depth? n (cs.filter isParen) = depth? n cs := by
  induction cs generalizing n with
  | nil => rfl
  | cons c cs ih =>
    by_cases hopen : c = '('
    · subst hopen
      exact ih (n + 1)
    by_cases hclose : c = ')'
    · subst hclose
      cases n with
      | zero => rfl
      | succ n => exact ih n
    · rw [List.filter_cons_of_neg (by simp [isParen, hopen, hclose]), depth?_cons_of_ne hopen hclose, ih]

theorem paired_iff_of_filter (h : cs.filter isParen = w.filter isParen) : Paired cs ↔ Paired w := by
  unfold Paired
  rw [← depth?_filter 0 cs, ← depth?_filter 0 w, h]

theorem count_eq_of_filter (h : cs.filter isParen = w.filter isParen) (hc : isParen c = true) :
    cs.count c = w.count c := by
  rw [← List.count_filter hc, ← List.count_filter (l := w) hc, h]

/-! ## Parameters -/

/-- A parameter of a type, as it is written. -/
inductive Parameter
  /-- A number, which has no parentheses. -/
  | number (text : String) (noParens : '(' ∉ text.toList ∧ ')' ∉ text.toList)
  /-- A string between quotes. -/
  | quoted (text : String)

/-- The text of a parameter. -/
def Parameter.text (d : Dialect) : Parameter → String
  | .number text _ => text
  | .quoted text => renderQuoted d text

/-- The characters of a string. -/
def Parameter.data : Parameter → List Char
  | .number _ _ => []
  | .quoted text => text.toList

/-- The parameters of a type, in their parentheses. -/
def parameterGroup (d : Dialect) (ps : List Parameter) : String :=
  "(" ++ String.intercalate ", " (ps.map (Parameter.text d)) ++ ")"

theorem toList_parameterGroup (d : Dialect) (ps : List Parameter) :
    (parameterGroup d ps).toList = '(' :: List.intercalate [',', ' '] (ps.map fun p => (p.text d).toList) ++ [')'] := by
  simp [parameterGroup, String.toList_intercalate, Function.comp_def]

/-- Quoting a character neither adds parentheses nor takes them away. -/
theorem filter_isParen_stringChar (d : Dialect) (c : Char) : (stringChar d c).filter isParen = [c].filter isParen := by
  unfold stringChar
  split
  · rename_i hc
    subst hc
    rfl
  split
  · -- the characters that MySQL escapes are no parentheses
    repeat' split
    all_goals first
      | (rename_i hc; subst hc; rfl)
      | rfl
  · rfl

theorem filter_isParen_text (d : Dialect) (p : Parameter) :
    (p.text d).toList.filter isParen = p.data.filter isParen := by
  cases p with
  | number text noParens =>
    refine List.filter_eq_nil_iff.mpr fun c hc => ?_
    rw [Bool.not_eq_true, isParen_eq_false]
    exact ⟨fun he => noParens.1 (he ▸ hc), fun he => noParens.2 (he ▸ hc)⟩
  | quoted text =>
    have hchars : (text.toList.flatMap (stringChar d)).filter isParen = text.toList.filter isParen := by
      rw [List.filter_flatMap]
      simp only [filter_isParen_stringChar]
      rw [← List.filter_flatMap, List.flatMap_singleton']
    show (renderQuoted d text).toList.filter isParen = _
    rw [renderQuoted, String.toList_ofList, List.filter_append, List.filter_cons_of_neg (by decide), hchars]
    exact List.append_nil _

/-- **What counts of the parameters** are their strings. -/
theorem filter_isParen_intercalate (d : Dialect) (ps : List Parameter) :
    (List.intercalate [',', ' '] (ps.map fun p => (p.text d).toList)).filter isParen =
      (ps.flatMap Parameter.data).filter isParen := by
  have hseparator : [',', ' '].filter isParen = [] := by decide
  induction ps with
  | nil => rfl
  | cons p ps ih =>
    rw [List.flatMap_cons, List.filter_append, ← filter_isParen_text d p, ← ih]
    cases ps with
    | nil => simp
    | cons q ps =>
      rw [List.map_cons, List.map_cons, List.intercalate_cons_cons, List.filter_append, List.filter_append, hseparator,
        List.append_nil]

/-! ## Parameters that leave nothing behind -/

/-- Every parenthesis behind the name has its partner, and what stands outside the groups goes with the sign words and
    blanks. -/
def Vanishes (name cs : List Char) : Prop := Paired cs ∧ collapseBlanks (dropModifiers (name ++ outside 0 cs)) = name

instance (name cs : List Char) : Decidable (Vanishes name cs) :=
  inferInstanceAs (Decidable (_ ∧ _))

/-- A group that is paired inside leaves nothing behind. -/
theorem vanishes_of_paired {name : List Char} (hname : tagText name = name) (hparens : '(' ∉ name)
    (h : Paired w) : Vanishes name ('(' :: w ++ [')']) := by
  have hpaired : Paired ('(' :: w ++ [')']) := depth?_group h 0 []
  have hgroup : outside 0 ('(' :: w ++ [')']) = [] := outside_group h 0 []
  refine ⟨hpaired, ?_⟩
  rw [hgroup, List.append_nil]
  rwa [tagText, dropAllGroups_eq_self hparens] at hname

/-- Where the parameters leave nothing behind, as many parentheses are opened in them as are closed. -/
theorem count_of_vanishes {name : List Char} (h : Vanishes name ('(' :: w ++ [')'])) : w.count '(' = w.count ')' := by
  have hcount := count_of_depth? h.1
  simp only [List.cons_append, List.count_cons, List.count_append, List.count_nil] at hcount
  simpa using hcount

/-! ## The tag of a name with something behind it -/

variable {name : List Char}

/-- **When the tag of a name** with something behind it is the name. -/
theorem tagText_eq_iff (hparens : '(' ∉ name ∧ ')' ∉ name) (cs : List Char) :
    tagText (name ++ cs) = name ↔ Vanishes name cs := by
  by_cases hpaired : Paired cs
  · rw [tagText_of_paired ((paired_append_iff hparens cs).mpr hpaired), outside_zero_append hparens]
    exact ⟨fun h => ⟨hpaired, h⟩, fun h => h.2⟩
  · -- a parenthesis gets into the tag, and the name has none
    refine ⟨fun h => ?_, fun h => absurd h.1 hpaired⟩
    have hmem := paren_mem_tagText (mt (paired_append_iff hparens cs).mp hpaired)
    rw [h] at hmem
    exact (hmem.elim hparens.1 hparens.2).elim

/-- A tag begins with a character that is not blank. -/
theorem isBlank_head_tagText (h : tagText cs = c :: w) : Text.isBlank c = false := by
  unfold tagText collapseBlanks at h
  cases hwords : Text.words (dropModifiers (dropAllGroups cs)) with
  | nil =>
    rw [hwords] at h
    cases h
  | cons v vs =>
    have hv : v ∈ Text.words (dropModifiers (dropAllGroups cs)) := hwords ▸ List.mem_cons_self
    obtain ⟨hne, hblank⟩ := Text.unbroken_of_mem_words hv
    obtain ⟨e, x, rfl⟩ := List.exists_cons_of_ne_nil hne
    have hhead : e = c := by
      rw [hwords] at h
      cases vs with
      | nil =>
        rw [List.intercalate_singleton] at h
        exact (List.cons.inj h).1
      | cons y vs =>
        rw [List.intercalate_cons_cons] at h
        exact (List.cons.inj h).1
    exact hhead ▸ hblank e List.mem_cons_self

/-- A name with something behind it has a tag. -/
theorem tagText_ne_nil (hname : tagText name = name) (hne : name ≠ []) (hparens : '(' ∉ name ∧ ')' ∉ name)
    (cs : List Char) : tagText (name ++ cs) ≠ [] := by
  intro hnil
  by_cases hpaired : Paired (name ++ cs)
  · obtain ⟨c, w, rfl⟩ := List.exists_cons_of_ne_nil hne
    have hc : Text.isBlank c = false := isBlank_head_tagText hname
    -- the first character of the name is kept by both passes
    have houtside : outside 0 (c :: w ++ cs) = c :: (w ++ outside 0 cs) := outside_zero_append hparens cs
    have hkept : c ∈ dropModifiers (c :: (w ++ outside 0 cs)) := by
      rw [dropModifiers_cons fun hblank => absurd hblank (by simp [hc])]
      exact List.mem_cons_self
    rw [tagText_of_paired hpaired, houtside] at hnil
    have hmem := mem_collapseBlanks hc hkept
    rw [hnil] at hmem
    cases hmem
  · have hmem := paren_mem_tagText hpaired
    rw [hnil] at hmem
    exact hmem.elim List.not_mem_nil List.not_mem_nil

/-- **The tag of a word** with a paired text behind it begins with the word. -/
theorem prefix_tagText (hword : ∀ x ∈ w, Text.isBlank x = false) (hne : w ≠ []) (hparens : '(' ∉ w ∧ ')' ∉ w)
    (h : Paired cs) : w <+: tagText (w ++ cs) := by
  rw [tagText_of_paired ((paired_append_iff hparens cs).mpr h), outside_zero_append hparens, dropModifiers_append hword,
    collapseBlanks]
  obtain ⟨v, vs, hwords⟩ := Text.exists_words_append ⟨hne, hword⟩ (dropModifiers (outside 0 cs))
  rw [hwords]
  cases vs with
  | nil =>
    rw [List.intercalate_singleton]
    exact List.prefix_append w v
  | cons x vs =>
    rw [List.intercalate_cons_cons, List.append_assoc, List.append_assoc]
    exact List.prefix_append w _

/-! ## When the tag is the name -/

variable {d : Dialect} {t : DataType} {word : String} {ps : List Parameter}

/-- **When the tag of a type is its name**, where the type is written with parameters behind a name that is a tag. -/
theorem typeTag_eq_iff (hrender : t.render d = word ++ parameterGroup d ps) (hname : tagText word.toList = word.toList)
    (hne : word ≠ "") (hparens : '(' ∉ word.toList ∧ ')' ∉ word.toList) :
    typeTag d t = word ↔ Vanishes word.toList (parameterGroup d ps).toList := by
  have hlist : word.toList ≠ [] := fun h => hne (String.toList_eq_nil_iff.mp h)
  have htag : ¬ (tagText (word ++ parameterGroup d ps).toList).isEmpty = true := by
    rw [String.toList_append, List.isEmpty_iff]
    exact tagText_ne_nil hname hlist hparens _
  rw [← tagText_eq_iff hparens, typeTag, hrender, if_neg htag, ← String.toList_inj, String.toList_ofList,
    String.toList_append]

/-- **Parameters whose parentheses all have partners** are not in the tag. -/
theorem vanishes_parameterGroup (hname : tagText word.toList = word.toList)
    (hparens : '(' ∉ word.toList) (h : Paired (ps.flatMap Parameter.data)) :
    Vanishes word.toList (parameterGroup d ps).toList := by
  rw [toList_parameterGroup]
  exact vanishes_of_paired hname hparens ((paired_iff_of_filter (filter_isParen_intercalate d ps)).mpr h)

/-- **Where parameters are not in the tag**, their strings open as many parentheses as they close. -/
theorem count_of_vanishes_parameterGroup (h : Vanishes name (parameterGroup d ps).toList) :
    (ps.flatMap Parameter.data).count '(' = (ps.flatMap Parameter.data).count ')' := by
  rw [toList_parameterGroup] at h
  have hcount := count_of_vanishes h
  rwa [count_eq_of_filter (filter_isParen_intercalate d ps) rfl,
    count_eq_of_filter (filter_isParen_intercalate d ps) rfl] at hcount

end DumpSummary.Record
