import DumpSummary.ColumnType
import DumpSummary.Proofs.Text.Parts

/-!
# The text of a type

The text of a declared type is its tag and, behind it in parentheses, its length and scale.  Where the tag holds no
opening parenthesis the text can be taken apart: the tag ends at the first opening parenthesis, the length at the first
comma behind it, and the last character closes the group.  The tag may hold anything else, a comma and a closing
parenthesis too.  A tag that is missing is shown by a word, so no tag may be that word.

## Contents

* `DeclaredType.shownTag`, `scaleGroup`, `group`, `toList_text`: the parts of the text;
* `DeclaredType.Plain`: types whose texts can be taken apart;
* `shownTag_injective`, `scaleGroup_injective`, `group_injective`: the parts tell what they show;
* `DeclaredType.text_eq_iff`: **the text tells the type.**
-/

namespace DumpSummary.DeclaredType

variable {t u : DeclaredType} {l l' s s' : Value}

/-! ## The parts of the text -/

/-- The tag as it is shown. -/
def shownTag (t : DeclaredType) : String :=
  match t.tag with
  | some b => if b = "" then unknown else b
  | none => unknown

/-- The scale behind its comma, if there is one. -/
def scaleGroup : Value → List Char
  | .null => []
  | s => ',' :: s.parameter.toList

/-- The group of parameters, if there is a length. -/
def group (l s : Value) : List Char :=
  match l with
  | .null => []
  | l => '(' :: (l.parameter.toList ++ scaleGroup s ++ [')'])

theorem text_of_scale_null (tag : Option String) (h : l ≠ .null) :
    text ⟨tag, l, .null⟩ = shownTag ⟨tag, l, .null⟩ ++ "(" ++ l.parameter ++ ")" := by
  cases l with
  | null => exact absurd rfl h
  | _ => rfl

theorem text_of_scale (tag : Option String) (hl : l ≠ .null) (hs : s ≠ .null) :
    text ⟨tag, l, s⟩ = shownTag ⟨tag, l, s⟩ ++ "(" ++ l.parameter ++ "," ++ s.parameter ++ ")" := by
  cases l with
  | null => exact absurd rfl hl
  | _ =>
    cases s with
    | null => exact absurd rfl hs
    | _ => rfl

theorem scaleGroup_of_ne (h : s ≠ .null) : scaleGroup s = ',' :: s.parameter.toList := by
  cases s with
  | null => exact absurd rfl h
  | _ => rfl

theorem group_of_ne (s : Value) (h : l ≠ .null) :
    group l s = '(' :: (l.parameter.toList ++ scaleGroup s ++ [')']) := by
  cases l with
  | null => exact absurd rfl h
  | _ => rfl

/-- **The text** of a type is its tag and its group. -/
theorem toList_text (t : DeclaredType) : t.text.toList = t.shownTag.toList ++ group t.length t.scale := by
  obtain ⟨tag, l, s⟩ := t
  by_cases hl : l = .null
  · subst hl
    exact (List.append_nil _).symm
  · rw [group_of_ne s hl]
    by_cases hs : s = .null
    · subst hs
      rw [text_of_scale_null tag hl]
      simp [scaleGroup]
    · rw [text_of_scale tag hl hs, scaleGroup_of_ne hs]
      simp

/-- A value is a whole number or nothing. -/
def IsWhole (v : Value) : Prop := v = .null ∨ ∃ n, v = .int n

/-- A type whose text can be taken apart. -/
structure Plain (t : DeclaredType) : Prop where
  /-- The tag is not empty, holds no opening parenthesis and is not the word for a missing one. -/
  tag : ∀ b, t.tag = some b → b ≠ "" ∧ '(' ∉ b.toList ∧ b ≠ unknown
  /-- The length is a whole number or missing. -/
  length : IsWhole t.length
  /-- The scale is a whole number or missing. -/
  scale : IsWhole t.scale
  /-- There is no scale without a length. -/
  scale_of_length : t.length = .null → t.scale = .null

/-! ## What the parts tell -/

theorem shownTag_of_none (h : t.tag = none) : t.shownTag = unknown := by
  unfold shownTag
  rw [h]

theorem shownTag_of_some {b : String} (h : t.tag = some b) (hne : b ≠ "") : t.shownTag = b := by
  unfold shownTag
  rw [h]
  exact if_neg hne

/-- The tag as it is shown tells the tag. -/
theorem shownTag_injective (ht : t.Plain) (hu : u.Plain) (h : t.shownTag = u.shownTag) : t.tag = u.tag := by
  cases hb : t.tag with
  | none =>
    rw [shownTag_of_none hb] at h
    cases hc : u.tag with
    | none => rfl
    | some c =>
      obtain ⟨hne, -, hword⟩ := hu.tag c hc
      rw [shownTag_of_some hc hne] at h
      exact absurd h.symm hword
  | some b =>
    obtain ⟨hne, -, hword⟩ := ht.tag b hb
    rw [shownTag_of_some hb hne] at h
    cases hc : u.tag with
    | none =>
      rw [shownTag_of_none hc] at h
      exact absurd h hword
    | some c =>
      rw [shownTag_of_some hc (hu.tag c hc).1] at h
      exact congrArg some h

/-- No opening parenthesis stands in the tag as it is shown. -/
theorem Plain.notMem_shownTag (ht : t.Plain) : '(' ∉ t.shownTag.toList := by
  cases hb : t.tag with
  | none =>
    rw [shownTag_of_none hb]
    decide
  | some b =>
    obtain ⟨hne, hparen, -⟩ := ht.tag b hb
    rwa [shownTag_of_some hb hne]

theorem parameter_int (n : Int) : (Value.int n).parameter.toList = Json.integerLiteral n := by
  rw [← Value.toList_integerText]
  rfl

/-- The scale is told by what stands behind the length. -/
theorem scaleGroup_injective (hs : IsWhole s) (hs' : IsWhole s') (h : scaleGroup s = scaleGroup s') : s = s' := by
  rcases hs with rfl | ⟨n, rfl⟩
  · rcases hs' with rfl | ⟨m, rfl⟩
    · rfl
    · cases h
  · rcases hs' with rfl | ⟨m, rfl⟩
    · cases h
    · have hnumber := (List.cons.inj h).2
      rw [parameter_int, parameter_int] at hnumber
      rw [Json.integerLiteral_injective hnumber]

theorem scaleGroup_head (s : Value) : scaleGroup s = [] ∨ ∃ cs, scaleGroup s = ',' :: cs := by
  by_cases hs : s = .null
  · subst hs
    exact .inl rfl
  · exact .inr ⟨_, scaleGroup_of_ne hs⟩

theorem group_head (l s : Value) : group l s = [] ∨ ∃ cs, group l s = '(' :: cs := by
  by_cases hl : l = .null
  · subst hl
    exact .inl rfl
  · exact .inr ⟨_, group_of_ne s hl⟩

/-- The group tells the length and, if there is one, the scale. -/
theorem group_injective (hl : IsWhole l) (hl' : IsWhole l') (hs : IsWhole s) (hs' : IsWhole s')
    (h : group l s = group l' s') : l = l' ∧ (l ≠ .null → s = s') := by
  rcases hl with rfl | ⟨n, rfl⟩
  · rcases hl' with rfl | ⟨m, rfl⟩
    · exact ⟨rfl, fun hne => absurd rfl hne⟩
    · cases h
  · rcases hl' with rfl | ⟨m, rfl⟩
    · cases h
    · have hbody : (Value.int n).parameter.toList ++ scaleGroup s = (Value.int m).parameter.toList ++ scaleGroup s' :=
        List.append_cancel_right (List.cons.inj h).2
      rw [parameter_int, parameter_int] at hbody
      -- no number holds a comma
      have hcomma : ∀ k, ',' ∉ Json.integerLiteral k := Json.notMem_integerLiteral (by decide)
      obtain ⟨hnumber, hscale⟩ :=
        eq_of_cut_or_end (hcomma n) (hcomma m) (scaleGroup_head s) (scaleGroup_head s') hbody
      exact ⟨congrArg Value.int (Json.integerLiteral_injective hnumber), fun _ => scaleGroup_injective hs hs' hscale⟩

/-- **The text tells the type**: two types with plain tags and whole parameters have the same text only if they are the
same, whatever else their tags hold. -/
theorem text_eq_iff (ht : t.Plain) (hu : u.Plain) : t.text = u.text ↔ t = u := by
  constructor
  · intro h
    have hlist : t.shownTag.toList ++ group t.length t.scale = u.shownTag.toList ++ group u.length u.scale := by
      rw [← toList_text, ← toList_text, h]
    obtain ⟨hshown, hgroup⟩ :=
      eq_of_cut_or_end ht.notMem_shownTag hu.notMem_shownTag (group_head _ _) (group_head _ _) hlist
    have htag : t.tag = u.tag := shownTag_injective ht hu (String.toList_injective hshown)
    obtain ⟨hlength, hscale⟩ := group_injective ht.length hu.length ht.scale hu.scale hgroup
    have hscale' : t.scale = u.scale := by
      by_cases hnull : t.length = .null
      · rw [ht.scale_of_length hnull, hu.scale_of_length (hlength ▸ hnull)]
      · exact hscale hnull
    cases t
    cases u
    exact (DeclaredType.mk.injEq ..).mpr ⟨htag, hlength, hscale'⟩
  · intro h
    rw [h]

/-- A comma and a closing parenthesis in a tag, and numbers of any size and sign. -/
theorem text_eq_iff_comma :
    let t : DeclaredType := ⟨some "A),1", .int (-1), .int 123456789012345678901234567890⟩
    let u : DeclaredType := ⟨some "A)", .int (-1), .int 123456789012345678901234567890⟩
    t.Plain ∧ u.Plain ∧ (t.text = u.text ↔ t = u) := by
  intro t u
  have ht : t.Plain :=
    ⟨fun b hb => by cases hb; decide, .inr ⟨_, rfl⟩, .inr ⟨_, rfl⟩, fun h => by cases h⟩
  have hu : u.Plain :=
    ⟨fun b hb => by cases hb; decide, .inr ⟨_, rfl⟩, .inr ⟨_, rfl⟩, fun h => by cases h⟩
  exact ⟨ht, hu, text_eq_iff ht hu⟩

end DumpSummary.DeclaredType
