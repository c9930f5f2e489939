import DumpSummary.ColumnType
import DumpSummary.Proofs.Reference.Grammar
import Mathlib.Tactic.ByContra

/-!
# The levels of a column's definition

A definition says what type a column has on two levels: on the definition itself, and one level down under `dataType`.
The tag stands on either of them, and so does each parameter, independently of the others.  What is there is described
here by the steps that lead to it, as for references, and not by the order in which the levels are tried: a parameter is
the value on the outer level if there is one, a value below if there is only that, and null if there is none.  A null
counts as no value on either level, but zero, an empty text and an empty list are values.

So a definition declares the type that it says, whatever levels it says it on.

## Contents

* `Holds`: a value under a key on a level; `holds_outer_iff`, `holds_nested_iff`: where the fields have it;
* `Placed`, `placed_iff`: a parameter of a definition, and where it is found;
* `tagOf_eq_some_iff`: the tag of a definition;
* `Says`, `ofDefinition_eq_declared_iff`: a definition declares what it says;
* `ofDefinition_levels`: **the levels do not matter.**
-/

namespace DumpSummary.ColumnType

open Reference

variable {v w x y l s : Value} {d : DeclaredType} {key b t : String}

/-! ## Values on a level -/

/-- On a level of a definition a value stands under a key. -/
def Holds (v : Value) (level : Nat) (key : String) (x : Value) : Prop :=
  x ≠ .null ∧ ∃ w, Leads "dataType" level v w ∧ Leads key 1 w x

/-- What stands under a key is what the field has. -/
theorem field_eq_of_leads (h : Leads key 1 v x) : v.field key = x := by
  cases h with
  | down hfield hrest =>
    cases hrest
    rw [Value.field_record, hfield, Option.getD_some]

/-- A value that is not null stands under a key exactly if the field has it. -/
theorem leads_one_iff (h : x ≠ .null) : Leads key 1 v x ↔ v.field key = x := by
  constructor
  · exact field_eq_of_leads
  · intro hfield
    cases v with
    | record fields =>
      rw [Value.field_record] at hfield
      cases hlookup : fields.lookup key with
      | none =>
        rw [hlookup] at hfield
        exact absurd hfield.symm h
      | some z =>
        rw [hlookup, Option.getD_some] at hfield
        exact .down (hfield ▸ hlookup) (.here x)
    | _ => exact absurd hfield.symm h

theorem holds_outer_iff : Holds v 0 key x ↔ x ≠ .null ∧ v.field key = x := by
  unfold Holds
  refine and_congr_right fun h => ?_
  constructor
  · rintro ⟨w, hlevel, hkey⟩
    cases hlevel
    exact (leads_one_iff h).mp hkey
  · intro hfield
    exact ⟨v, .here v, (leads_one_iff h).mpr hfield⟩

theorem holds_nested_iff : Holds v 1 key x ↔ x ≠ .null ∧ (v.field "dataType").field key = x := by
  unfold Holds
  refine and_congr_right fun h => ?_
  constructor
  · rintro ⟨w, hlevel, hkey⟩
    -- what lies under a key is no null, so the level is the field
    have hw : w ≠ .null := by
      rintro rfl
      cases hkey
    rw [(leads_one_iff hw).mp hlevel]
    exact (leads_one_iff h).mp hkey
  · intro hfield
    have hlevel : v.field "dataType" ≠ .null := by
      intro hnull
      rw [hnull] at hfield
      exact h hfield.symm
    exact ⟨v.field "dataType", (leads_one_iff hlevel).mpr rfl, (leads_one_iff h).mpr hfield⟩

/-! ## Parameters -/

/-- What a definition has under a key: the value on the outer level, whatever lies below; else the value one level down;
else null. -/
inductive Placed (v : Value) (key : String) : Value → Prop
  /-- On the outer level. -/
  | outer {x : Value} : Holds v 0 key x → Placed v key x
  /-- One level down only. -/
  | nested {x : Value} : (∀ y, ¬ Holds v 0 key y) → Holds v 1 key x → Placed v key x
  /-- On no level. -/
  | absent : (∀ level ≤ 1, ∀ y, ¬ Holds v level key y) → Placed v key .null

/-- No value stands on the outer level exactly if the field is null. -/
theorem not_holds_outer_iff : (∀ y, ¬ Holds v 0 key y) ↔ v.field key = .null := by
  constructor
  · intro h
    by_contra hfield
    exact h _ (holds_outer_iff.mpr ⟨hfield, rfl⟩)
  · intro hfield y hy
    obtain ⟨hne, heq⟩ := holds_outer_iff.mp hy
    exact hne (heq.symm.trans hfield)

theorem outerOrNested_of_ne (h : v.field key ≠ .null) : outerOrNested v key = v.field key := by
  unfold outerOrNested
  split
  · rename_i hnull
    exact absurd hnull h
  · rfl

theorem outerOrNested_of_null (h : v.field key = .null) :
    outerOrNested v key = (v.field "dataType").field key := by
  unfold outerOrNested
  rw [h]

/-- **A parameter** is found where it is placed. -/
theorem placed_iff : Placed v key x ↔ outerOrNested v key = x := by
  constructor
  · intro h
    cases h with
    | outer h =>
      obtain ⟨hne, hfield⟩ := holds_outer_iff.mp h
      rw [outerOrNested_of_ne (hfield ▸ hne), hfield]
    | nested houter h =>
      rw [outerOrNested_of_null (not_holds_outer_iff.mp houter)]
      exact (holds_nested_iff.mp h).2
    | absent h =>
      rw [outerOrNested_of_null (not_holds_outer_iff.mp (h 0 (Nat.zero_le 1)))]
      by_contra hne
      exact h 1 (Nat.le_refl 1) _ (holds_nested_iff.mpr ⟨hne, rfl⟩)
  · rintro rfl
    by_cases houter : v.field key = .null
    · have hnone := not_holds_outer_iff.mpr houter
      rw [outerOrNested_of_null houter]
      by_cases hnested : (v.field "dataType").field key = .null
      · rw [hnested]
        refine .absent ?_
        intro level hlevel y hy
        obtain rfl | rfl := Nat.le_one_iff_eq_zero_or_eq_one.mp hlevel
        · exact hnone y hy
        · obtain ⟨hne, heq⟩ := holds_nested_iff.mp hy
          exact hne (heq.symm.trans hnested)
      · exact .nested hnone (holds_nested_iff.mpr ⟨hnested, rfl⟩)
    · rw [outerOrNested_of_ne houter]
      exact .outer (holds_outer_iff.mpr ⟨houter, rfl⟩)

/-! ## The type -/

/-- **The tag** is a text on one of the levels, in upper case. -/
theorem tagOf_eq_some_iff : tagOf v = some t ↔ ∃ b, Within "dataType" 2 v b ∧ Text.upper b = t := by
  simp only [within_succ_iff, or_iff_left not_within_zero]
  unfold tagOf
  split
  · -- a text has no field below it
    rename_i b hfield
    rw [hfield]
    simp [Value.field]
  · rename_i houter
    have hnone : ∀ b, v.field "dataType" ≠ .text b := houter
    simp only [hnone, false_or]
    split
    · rename_i b hfield
      rw [hfield]
      simp
    · rename_i hnested
      have hnone' : ∀ b, (v.field "dataType").field "dataType" ≠ .text b := hnested
      simp [hnone']

/-- What a definition says of the type: the tag on either level, and a length and a scale, null where there is none. -/
structure Says (v : Value) (b : String) (l s : Value) : Prop where
  /-- The tag. -/
  tag : Within "dataType" 2 v b
  /-- The length. -/
  length : Placed v "length" l
  /-- The scale. -/
  scale : Placed v "scale" s

theorem isRecord_of_within {m : Nat} (h : Within key m v b) : v.isRecord = true := by
  obtain ⟨k, hleast, -, hleads⟩ := h
  cases hleads with
  | here => omega
  | down => rfl

/-- Records declare a type, and nothing else does. -/
theorem ofDefinition_eq_iff : ofDefinition v = .declared d ↔
    v.isRecord = true ∧ d = ⟨tagOf v, outerOrNested v "length", outerOrNested v "scale"⟩ := by
  unfold ofDefinition
  split
  · rename_i hrecord
    rw [declared.injEq]
    exact ⟨fun h => ⟨hrecord, h.symm⟩, fun h => h.2.symm⟩
  · rename_i hno
    constructor
    · intro h
      cases h
    · rintro ⟨hrecord, -⟩
      exact absurd hrecord hno

/-- **A definition declares what it says.** -/
theorem ofDefinition_eq_declared_iff :
    ofDefinition v = .declared ⟨some t, l, s⟩ ↔ ∃ b, Says v b l s ∧ Text.upper b = t := by
  constructor
  · intro h
    obtain ⟨-, hd⟩ := ofDefinition_eq_iff.mp h
    obtain ⟨htag, hlength, hscale⟩ := DeclaredType.mk.inj hd
    obtain ⟨b, hb, hupper⟩ := tagOf_eq_some_iff.mp htag.symm
    exact ⟨b, ⟨hb, placed_iff.mpr hlength.symm, placed_iff.mpr hscale.symm⟩, hupper⟩
  · rintro ⟨b, ⟨htag, hlength, hscale⟩, rfl⟩
    refine ofDefinition_eq_iff.mpr ⟨isRecord_of_within htag, ?_⟩
    rw [tagOf_eq_some_iff.mpr ⟨b, htag, rfl⟩, placed_iff.mp hlength, placed_iff.mp hscale]

/-- **The levels do not matter.**  For every tag, length and scale (null where there is none): all definitions that say
them, on whatever levels, declare the same type, with the tag in upper case, and have the same text.  Where both levels
hold a length, or a scale, the outer one is used; and where the outer one is null, the one below. -/
theorem ofDefinition_levels (b : String) (l s : Value) :
    (∀ v w, Says v b l s → Says w b l s →
      ofDefinition v = .declared ⟨some (Text.upper b), l, s⟩ ∧ ofDefinition w = ofDefinition v ∧
        (ofDefinition w).text = (ofDefinition v).text) ∧
    ∀ v d, ofDefinition v = .declared d →
      ∀ part ∈ [("length", d.length), ("scale", d.scale)],
        (∀ x y, Holds v 0 part.1 x → Holds v 1 part.1 y → part.2 = x) ∧
        ∀ y, Leads part.1 1 v .null → Holds v 1 part.1 y → part.2 = y := by
  constructor
  · intro v w hv hw
    have hdeclared := ofDefinition_eq_declared_iff.mpr ⟨b, hv, rfl⟩
    have hsame : ofDefinition w = ofDefinition v :=
      (ofDefinition_eq_declared_iff.mpr ⟨b, hw, rfl⟩).trans hdeclared.symm
    exact ⟨hdeclared, hsame, congrArg text hsame⟩
  · intro v d hd part hpart
    obtain ⟨-, rfl⟩ := ofDefinition_eq_iff.mp hd
    have hfound : part.2 = outerOrNested v part.1 := by
      simp only [List.mem_cons, List.not_mem_nil, or_false] at hpart
      rcases hpart with rfl | rfl
      · rfl
      · rfl
    rw [hfound]
    constructor
    · intro x y houter _
      exact placed_iff.mp (.outer houter)
    · intro y hnull hnested
      exact placed_iff.mp (.nested (not_holds_outer_iff.mpr (field_eq_of_leads hnull)) hnested)

/-- A length of zero and an empty list as the scale are values: above a null, and above another value. -/
theorem ofDefinition_levels_decimal :
    let outer : Value := .record [("dataType", .text "decimal"), ("length", .int 0), ("scale", .list [])]
    let nested : Value := .record [("dataType", .text "decimal"), ("length", .int 0), ("scale", .int 7)]
    let mixed : Value := .record [("scale", .list []), ("length", .null), ("dataType", nested)]
    Says outer "decimal" (.int 0) (.list []) ∧ Says mixed "decimal" (.int 0) (.list []) ∧
      ofDefinition mixed = ofDefinition outer ∧ (ofDefinition mixed).text = "DECIMAL(0,[])" ∧
      (Holds mixed 0 "scale" (.list []) ∧ Holds mixed 1 "scale" (.int 7) ∧ outerOrNested mixed "scale" = .list []) ∧
      Leads "length" 1 mixed .null ∧ Holds mixed 1 "length" (.int 0) ∧ outerOrNested mixed "length" = .int 0 := by
  intro outer nested mixed
  have houter : Says outer "decimal" (.int 0) (.list []) :=
    ⟨⟨1, by omega, by omega, .down rfl (.here _)⟩, placed_iff.mpr rfl, placed_iff.mpr rfl⟩
  have hmixed : Says mixed "decimal" (.int 0) (.list []) :=
    ⟨⟨2, by omega, by omega, .down rfl (.down rfl (.here _))⟩, placed_iff.mpr rfl, placed_iff.mpr rfl⟩
  have habove : Holds mixed 0 "scale" (.list []) := holds_outer_iff.mpr ⟨by simp, rfl⟩
  have hbelow : Holds mixed 1 "scale" (.int 7) := holds_nested_iff.mpr ⟨by simp, rfl⟩
  have hnull : Leads "length" 1 mixed .null := .down rfl (.here _)
  have hlength : Holds mixed 1 "length" (.int 0) := holds_nested_iff.mpr ⟨by simp, rfl⟩
  have hdeclared : ofDefinition mixed =
      .declared ⟨tagOf mixed, outerOrNested mixed "length", outerOrNested mixed "scale"⟩ := rfl
  have hshown : (ofDefinition outer).text = "DECIMAL(0,[])" := by decide +kernel
  obtain ⟨hsaid, hlevels⟩ := ofDefinition_levels "decimal" (.int 0) (.list [])
  obtain ⟨-, hsame, htext⟩ := hsaid outer mixed houter hmixed
  have hlengths := hlevels mixed _ hdeclared ("length", _) List.mem_cons_self
  have hscales := hlevels mixed _ hdeclared ("scale", _) (List.mem_cons_of_mem _ List.mem_cons_self)
  exact ⟨houter, hmixed, hsame, htext.trans hshown, ⟨habove, hbelow, hscales.1 _ _ habove hbelow⟩,
    hnull, hlength, hlengths.2 _ hnull hlength⟩

end DumpSummary.ColumnType
