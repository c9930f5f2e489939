import DumpSummary.Proofs.Yaml.Composing
import DumpSummary.Yaml.Build

/-!
# How building values fails

A document that is composed may still have no value: a node that its tag does not fit, a scalar that is not what its tag
says, a word that its tag does not know, a number without digits or too large for the machine, a date that is none.  Each
of these has a kind of its own, and the value of a document is refused for no other reason.

## Contents

* `buildingKinds`: the kinds of this stage;
* `failsOnly_scalarReader`: the values of scalars;
* `failsOnly_mergeKeys`, `failsOnly_fill`, `failsOnly_ofDocument`: **the values of a document**;
* `stage_of_load`: **the stages in which a text is refused.**
-/

namespace DumpSummary.Yaml

variable {α : Type}

/-- How building values may fail. -/
def buildingKinds : List FaultKind := [.construction, .value, .overflow, .word, .empty, .form]

@[grind! .] theorem failsOnly_unbuildable (headline : String) :
    FailsOnly buildingKinds (unbuildable headline : Except Fault α) := failsOnly_error_iff.mpr (by simp [buildingKinds])

@[grind! .] theorem failsOnly_valueFault (headline : String) :
    FailsOnly buildingKinds (valueFault headline : Except Fault α) := failsOnly_error_iff.mpr (by simp [buildingKinds])

@[grind! .] theorem failsOnly_emptyFault : FailsOnly buildingKinds (emptyFault : Except Fault α) :=
  failsOnly_error_iff.mpr (by decide)

/-! ## Scalars -/

@[grind! .] theorem failsOnly_integerIn (base : Nat) (cs : List Char) : FailsOnly buildingKinds (integerIn base cs) := by
  unfold integerIn
  grind

@[grind! .] theorem failsOnly_sexagesimal (parts : List (List Char)) : FailsOnly buildingKinds (sexagesimal parts) :=
  .foldlM (fun _ part => (failsOnly_integerIn 10 part).map _) parts 0

theorem failsOnly_wholeNumber (text : String) : FailsOnly buildingKinds (wholeNumber text) := by
  unfold wholeNumber
  dsimp only
  refine FailsOnly.map ?_ _
  split <;> grind

theorem failsOnly_floatOf (cs : List Char) : FailsOnly buildingKinds (floatOf cs) := by
  unfold floatOf
  dsimp only
  refine .ite (failsOnly_ok _) (.ite (failsOnly_ok _) ?_)
  split
  · exact failsOnly_ok _
  · exact failsOnly_valueFault _

theorem failsOnly_partWeight (weight : Nat) : FailsOnly buildingKinds (partWeight weight) := by
  unfold partWeight
  split
  · exact failsOnly_error_iff.mpr (by simp [buildingKinds])
  · exact failsOnly_ok _

/-- Parts are added up as long as their weights are numbers of the machine. -/
theorem failsOnly_addParts (parts : List Binary64) (weight : Nat) (sum : Binary64) :
    FailsOnly buildingKinds (addParts weight sum parts) := by
  induction parts generalizing weight sum with
  | nil => exact failsOnly_ok sum
  | cons x xs ih => exact (failsOnly_partWeight weight).bind fun w => ih (60 * weight) _

theorem failsOnly_pointNumber (text : String) : FailsOnly buildingKinds (pointNumber text) := by
  unfold pointNumber
  dsimp only
  refine FailsOnly.map ?_ _
  refine .ite failsOnly_emptyFault (.ite (failsOnly_ok _) (.ite (failsOnly_ok _) (.ite ?_ (failsOnly_floatOf _))))
  exact (FailsOnly.mapM failsOnly_floatOf _).bind fun parts => failsOnly_addParts parts.reverse 1 _

theorem failsOnly_truthValue (text : String) : FailsOnly buildingKinds (truthValue text) := by
  unfold truthValue
  refine .ite (failsOnly_ok _) (.ite (failsOnly_ok _) ?_)
  exact failsOnly_error_iff.mpr (by simp [buildingKinds])

theorem failsOnly_dateValue (text : String) : FailsOnly buildingKinds (dateValue text) := by
  unfold dateValue
  split
  · exact failsOnly_error_iff.mpr (by simp [buildingKinds])
  · split <;> grind

theorem failsOnly_bytesValue (text : String) : FailsOnly buildingKinds (bytesValue text) := by
  unfold bytesValue
  refine .ite (failsOnly_error_iff.mpr (by simp [buildingKinds])) ?_
  split
  · exact failsOnly_ok _
  · exact failsOnly_error_iff.mpr (by simp [buildingKinds])

/-- **The value of a scalar** under a tag. -/
theorem failsOnly_scalarReader {tag : String} {read : String → Except Fault Datum} (h : scalarReader? tag = some read)
    (text : String) : FailsOnly buildingKinds (read text) := by
  unfold scalarReader? at h
  repeat' split at h
  all_goals cases h
  case _ => exact failsOnly_ok _
  case _ => exact (failsOnly_truthValue text).map _
  case _ => exact (failsOnly_wholeNumber text).map _
  case _ => exact (failsOnly_pointNumber text).map _
  case _ => exact failsOnly_bytesValue text
  case _ => exact failsOnly_dateValue text
  case _ => exact failsOnly_ok _

/-! ## Collections -/

/-- **Merge keys.** -/
theorem failsOnly_mergeKeys (fuel : Nat) (ns : Nodes) (id : Nat) : FailsOnly buildingKinds (mergeKeys fuel ns id) := by
  induction fuel generalizing ns id with
  | zero => exact failsOnly_ok ns
  | succ fuel ih =>
    unfold mergeKeys
    dsimp only
    -- what a merge key brings is a mapping or a list of mappings
    refine FailsOnly.bind (.foldlM (fun state e => ?_) _ _) fun _ => failsOnly_ok _
    split
    · exact FailsOnly.bind ((ih _ _).bind fun _ => failsOnly_ok _) fun _ => failsOnly_ok _
    · refine FailsOnly.bind (.foldlM (fun state source => ?_) _ _) fun _ => failsOnly_ok _
      split
      · exact (ih _ _).bind fun _ => failsOnly_ok _
      · exact failsOnly_unbuildable _
    · exact failsOnly_unbuildable _

theorem failsOnly_scalarText (ns : Nodes) (fuel id : Nat) : FailsOnly buildingKinds (scalarText ns fuel id) := by
  induction fuel generalizing id with
  | zero => exact failsOnly_unbuildable _
  | succ fuel ih =>
    unfold scalarText
    grind

namespace Values

@[grind! .] theorem failsOnly_meet (v : Values) (id : Nat) : FailsOnly buildingKinds (v.meet id) := by
  unfold meet
  refine .ite (failsOnly_ok v) ?_
  dsimp only
  split
  · rename_i read hread
    exact (failsOnly_scalarText _ _ _).bind fun text =>
      (failsOnly_scalarReader hread text).bind fun _ => failsOnly_ok _
  · split <;> grind

@[grind! .] theorem failsOnly_meetKey (v : Values) (id : Nat) : FailsOnly buildingKinds (v.meetKey id) := by
  unfold meetKey
  grind

@[grind! .] theorem failsOnly_meetPair (headline : String) (v : Values) (id : Nat) :
    FailsOnly buildingKinds (meetPair headline v id) := by
  unfold meetPair
  grind

@[grind! .] theorem failsOnly_fill (v : Values) (id : Nat) : FailsOnly buildingKinds (v.fill id) := by
  have hmeet : ∀ (v : Values) id, FailsOnly buildingKinds (v.meet id) := failsOnly_meet
  unfold fill
  dsimp only
  split
  · exact .foldlM hmeet _ _
  · exact failsOnly_unbuildable _
  · exact .foldlM (failsOnly_meetPair _) _ _
  · exact failsOnly_unbuildable _
  · exact .foldlM (failsOnly_meetPair _) _ _
  · exact failsOnly_unbuildable _
  · refine (failsOnly_mergeKeys _ _ _).bind fun ns => .foldlM (fun v e => ?_) _ _
    exact (failsOnly_meetKey v e.1).bind fun v => hmeet v e.2
  · exact failsOnly_unbuildable _
  · exact failsOnly_ok v

@[grind! .] theorem failsOnly_fillAll (fuel : Nat) (v : Values) : FailsOnly buildingKinds (fillAll fuel v) := by
  induction fuel generalizing v with
  | zero => exact failsOnly_ok v
  | succ fuel ih =>
    unfold fillAll
    grind

/-- **The values of a document.** -/
theorem failsOnly_ofDocument (d : Document) : FailsOnly buildingKinds (ofDocument d) :=
  (failsOnly_meet _ _).bind fun v => failsOnly_fillAll _ v

end Values

/-- **The stages of reading a text.**  It is refused for a character that no document may hold, or, if it has none, in
one of two stages: no document is composed, or the document has no value.  Each stage has its kinds of faults. -/
theorem stage_of_load {depth : Nat} {cs : List Char} {e : Fault} (h : load depth cs = .error e) :
    (∃ c ∈ cs, isAllowed c = false) ∧ e.kind = .character ∨
      (∀ c ∈ cs, isAllowed c = true) ∧
        (Document.ofText? cs = .error e ∧ e.kind ∈ Compose.composingKinds ∨
          ∃ d, Document.ofText? cs = .ok (some d) ∧ Values.ofDocument d = .error e ∧ e.kind ∈ buildingKinds) := by
  by_cases hall : ∀ c ∈ cs, isAllowed c = true
  · refine .inr ⟨hall, ?_⟩
    unfold load at h
    cases hdoc : Document.ofText? cs with
    | error e' =>
      rw [hdoc] at h
      cases h
      exact .inl ⟨rfl, failsOnly_ofText? hall e hdoc⟩
    | ok found =>
      rw [hdoc] at h
      cases found with
      | none => cases h
      | some d =>
        cases hvalue : Values.ofDocument d with
        | ok v => simp [bind, Except.bind, pure, Except.pure, hvalue] at h
        | error e' =>
          obtain rfl : e' = e := by simpa [bind, Except.bind, hvalue] using h
          exact .inr ⟨d, rfl, hvalue, Values.failsOnly_ofDocument d e' hvalue⟩
  · have hbad : ∃ c ∈ cs, isAllowed c = false := by simpa using hall
    obtain ⟨headline, hrefused⟩ := ofText?_of_not_isAllowed hbad
    unfold load at h
    rw [hrefused] at h
    cases h
    exact .inl ⟨hbad, rfl⟩

end DumpSummary.Yaml
