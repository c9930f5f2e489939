import DumpSummary.Proofs.Yaml.Scanning
import DumpSummary.Yaml.Node

/-!
# How composing fails

Putting the tokens of a text together to a document fails where the tokens form none, where a node is named twice or
not at all, and where scanning fails.  A character that no document may hold is found before all of that.

The nodes of a document contain each other, so all functions for them are taken through together, by induction on the
number of steps that they may take.

## Contents

* `StepsFail`: steps that fail with faults of some kinds only, from every state;
* `composingKinds`: the kinds of this stage;
* `NodeSteps`, `nodeSteps`: **nodes**, and what they contain;
* `stepsFail_single`: the only document of a text;
* `ofText?_of_not_isAllowed`, `failsOnly_ofText?`: **the document of a text.**
-/

namespace DumpSummary.Yaml

namespace Compose

/-! ## Steps -/

section Steps

variable {α β : Type} {kinds : List FaultKind}

/-- If the step fails, in whatever state, then with a fault of one of the kinds. -/
def StepsFail (kinds : List FaultKind) (m : Compose α) : Prop := ∀ s, FailsOnly kinds (m s)

@[grind ←] theorem stepsFail_pure (a : α) : StepsFail kinds (pure a) := fun s => failsOnly_ok (a, s)

@[grind ←] theorem stepsFail_throw {e : Fault} (h : e.kind ∈ kinds) : StepsFail kinds (throw e : Compose α) :=
  fun _ => failsOnly_error_iff.mpr h

@[grind ←] theorem StepsFail.bind {m : Compose α} {f : α → Compose β} (hm : StepsFail kinds m)
    (hf : ∀ a, StepsFail kinds (f a)) : StepsFail kinds (m >>= f) := fun s => (hm s).bind fun r => hf r.1 r.2

@[grind ←] theorem StepsFail.map {m : Compose α} (hm : StepsFail kinds m) (f : α → β) : StepsFail kinds (f <$> m) :=
  fun s => (hm s).bind fun _ => failsOnly_ok _

theorem StepsFail.seqRight {m : Compose α} {n : Compose β} (hm : StepsFail kinds m) (hn : StepsFail kinds n) :
    StepsFail kinds (m *> n) := hm.bind fun _ => hn

theorem StepsFail.ite {p : Prop} [Decidable p] {m n : Compose α} (hm : StepsFail kinds m) (hn : StepsFail kinds n) :
    StepsFail kinds (if p then m else n) := by
  split
  · exact hm
  · exact hn

theorem stepsFail_get : StepsFail kinds (get : Compose Composition) := fun _ => failsOnly_ok _

theorem stepsFail_set (s : Composition) : StepsFail kinds (set s : Compose Unit) := fun _ => failsOnly_ok _

theorem stepsFail_modify (f : Composition → Composition) : StepsFail kinds (modify f : Compose Unit) :=
  fun _ => failsOnly_ok _

end Steps

variable {α : Type}

/-- How composing may fail. -/
def composingKinds : List FaultKind := [.document, .node] ++ scanningKinds

@[grind! .] theorem stepsFail_misplaced (headline : String) : StepsFail composingKinds (misplaced headline : Compose α) :=
  stepsFail_throw (by simp [composingKinds])

@[grind! .] theorem stepsFail_peek : StepsFail composingKinds peek := by
  refine stepsFail_get.bind fun s => ?_
  split
  · rename_i e he
    exact stepsFail_throw (List.mem_append_right _ (s.stream.failsOnly_peek e he))
  · exact (stepsFail_set _).bind fun _ => stepsFail_pure _

@[grind! .] theorem stepsFail_skip : StepsFail composingKinds skip := by
  unfold skip
  grind [stepsFail_modify]

@[grind! .] theorem stepsFail_skipIf (t : Token) : StepsFail composingKinds (skipIf t) := by
  unfold skipIf
  grind

@[grind! .] theorem stepsFail_add (n : Node) : StepsFail composingKinds (add n) := by
  unfold add
  grind [stepsFail_get, stepsFail_set]

@[grind! .] theorem stepsFail_empty : StepsFail composingKinds empty := stepsFail_add _

@[grind! .] theorem stepsFail_fill (id : Nat) (content : Content) : StepsFail composingKinds (fill id content) :=
  stepsFail_modify _

@[grind! .] theorem stepsFail_nameNode (anchor : Option String) (id : Nat) :
    StepsFail composingKinds (nameNode anchor id) := by
  unfold nameNode
  grind [stepsFail_modify]

@[grind! .] theorem stepsFail_fullTag (handle : Option String) (suffix : String) :
    StepsFail composingKinds (fullTag handle suffix) := by
  unfold fullTag
  grind [stepsFail_get]

@[grind! .] theorem stepsFail_properties : StepsFail composingKinds properties := by
  refine stepsFail_peek.bind fun t => ?_
  split
  · refine stepsFail_skip.bind fun _ => stepsFail_peek.bind fun t => ?_
    split <;> grind
  · refine stepsFail_skip.bind fun _ => stepsFail_peek.bind fun t => ?_
    split <;> grind
  · grind

@[grind! .] theorem stepsFail_checkFresh (anchor : Option String) : StepsFail composingKinds (checkFresh anchor) := by
  unfold checkFresh
  grind [stepsFail_get, composingKinds]

@[grind! .] theorem stepsFail_addScalar (anchor tag : Option String) (plain : Bool) (text : String) :
    StepsFail composingKinds (addScalar anchor tag plain text) := by
  unfold addScalar
  grind

/-! ## Nodes -/

theorem stepsFail_unexpected (anchor tag : Option String) (block : Bool) :
    StepsFail composingKinds (unexpected anchor tag block) := by
  unfold unexpected
  grind

/-- The functions for nodes and what they contain, for a number of steps. -/
structure NodeSteps (fuel : Nat) : Prop where
  /-- A node. -/
  node : ∀ block indentless, StepsFail composingKinds (node fuel block indentless)
  /-- The items of a sequence by indentation. -/
  blockItems : StepsFail composingKinds (blockItems fuel)
  /-- The items of a sequence at the column of its key. -/
  indentlessItems : StepsFail composingKinds (indentlessItems fuel)
  /-- A key or a value by indentation. -/
  blockPart : StepsFail composingKinds (blockPart fuel)
  /-- The entries of a mapping by indentation. -/
  blockEntries : StepsFail composingKinds (blockEntries fuel)
  /-- The items of a sequence in brackets. -/
  flowItems : ∀ first, StepsFail composingKinds (flowItems fuel first)
  /-- A key or a value in brackets or braces. -/
  flowPart : ∀ closing isKey, StepsFail composingKinds (flowPart fuel closing isKey)
  /-- The entries of a mapping in braces. -/
  flowEntries : ∀ first, StepsFail composingKinds (flowEntries fuel first)

/-- A collection, whatever reads what it contains. -/
theorem stepsFail_collection {anchor : Option String} {n : Node} {rest : Nat → Compose Content}
    (h : ∀ id, StepsFail composingKinds (rest id)) :
    StepsFail composingKinds (do
      checkFresh anchor
      let id ← add n
      nameNode anchor id
      fill id (← rest id)
      return id) := by
  refine (stepsFail_checkFresh anchor).bind fun _ => (stepsFail_add n).bind fun id => ?_
  refine (stepsFail_nameNode anchor id).bind fun _ => (h id).bind fun content => ?_
  exact (stepsFail_fill id content).bind fun _ => stepsFail_pure id

variable {fuel : Nat}

theorem NodeSteps.node_succ (h : NodeSteps fuel) (block indentless : Bool) :
    StepsFail composingKinds (Compose.node (fuel + 1) block indentless) := by
  rw [Compose.node]
  refine stepsFail_peek.bind fun t => ?_
  split
  · grind [stepsFail_get, composingKinds]
  · refine stepsFail_properties.bind fun p => ?_
    obtain ⟨anchor, tag⟩ := p
    refine stepsFail_peek.bind fun t => ?_
    have hunexpected := stepsFail_unexpected anchor tag block
    split
    · split
      · exact stepsFail_collection fun _ => h.indentlessItems.map _
      · exact hunexpected
    · exact stepsFail_skip.bind fun _ => stepsFail_addScalar _ _ _ _
    · exact stepsFail_collection fun _ => stepsFail_skip.seqRight ((h.flowItems true).map _)
    · exact stepsFail_collection fun _ => stepsFail_skip.seqRight ((h.flowEntries true).map _)
    · split
      · exact stepsFail_collection fun _ => stepsFail_skip.seqRight (h.blockItems.map _)
      · exact hunexpected
    · split
      · exact stepsFail_collection fun _ => stepsFail_skip.seqRight (h.blockEntries.map _)
      · exact hunexpected
    · exact hunexpected

theorem NodeSteps.blockItems_succ (h : NodeSteps fuel) : StepsFail composingKinds (Compose.blockItems (fuel + 1)) := by
  rw [Compose.blockItems]
  refine stepsFail_peek.bind fun t => ?_
  split
  · refine stepsFail_skip.bind fun _ => stepsFail_peek.bind fun t => ?_
    have hrest (id : Nat) := h.blockItems.bind fun ids => stepsFail_pure (id :: ids)
    split
    · exact stepsFail_empty.bind hrest
    · exact stepsFail_empty.bind hrest
    · exact (h.node true false).bind hrest
  · grind
  · grind

theorem NodeSteps.indentlessItems_succ (h : NodeSteps fuel) :
    StepsFail composingKinds (Compose.indentlessItems (fuel + 1)) := by
  rw [Compose.indentlessItems]
  refine (stepsFail_skipIf .blockEntry).bind fun found => ?_
  split
  · refine stepsFail_peek.bind fun t => ?_
    have hrest (id : Nat) := h.indentlessItems.bind fun ids => stepsFail_pure (id :: ids)
    split
    · exact stepsFail_empty.bind hrest
    · exact stepsFail_empty.bind hrest
    · exact stepsFail_empty.bind hrest
    · exact stepsFail_empty.bind hrest
    · exact (h.node true false).bind hrest
  · exact stepsFail_pure _

theorem NodeSteps.blockPart_succ (h : NodeSteps fuel) : StepsFail composingKinds (Compose.blockPart (fuel + 1)) := by
  rw [Compose.blockPart]
  refine stepsFail_peek.bind fun t => ?_
  have hnode := h.node true true
  split <;> grind

theorem NodeSteps.blockEntries_succ (h : NodeSteps fuel) :
    StepsFail composingKinds (Compose.blockEntries (fuel + 1)) := by
  rw [Compose.blockEntries]
  refine stepsFail_peek.bind fun t => ?_
  split
  · grind
  · refine stepsFail_skip.bind fun _ => h.blockPart.bind fun key => (stepsFail_skipIf .value).bind fun found => ?_
    have hrest (value : Nat) :=
      h.blockEntries.bind fun es => stepsFail_pure ((key, value) :: es)
    split
    · exact h.blockPart.bind hrest
    · exact stepsFail_empty.bind hrest
  · grind

theorem NodeSteps.flowPart_succ (h : NodeSteps fuel) (closing : Token) (isKey : Bool) :
    StepsFail composingKinds (Compose.flowPart (fuel + 1) closing isKey) := by
  rw [Compose.flowPart]
  refine stepsFail_peek.bind fun t => ?_
  have hnode := h.node false false
  split <;> grind

/-- Behind the first item in brackets or braces a comma has to stand. -/
theorem stepsFail_comma (first : Bool) (headline : String) {m : Compose α} (hm : StepsFail composingKinds m) :
    StepsFail composingKinds (do
      if !first then
        if !(← skipIf .flowEntry) then misplaced headline
      m) := by
  cases first with
  | true => exact hm
  | false =>
    refine (stepsFail_skipIf .flowEntry).bind fun found => ?_
    cases found with
    | true => exact hm
    | false => exact (stepsFail_misplaced headline).bind fun _ => hm

theorem NodeSteps.flowItems_succ (h : NodeSteps fuel) (first : Bool) :
    StepsFail composingKinds (Compose.flowItems (fuel + 1) first) := by
  rw [Compose.flowItems]
  refine (stepsFail_skipIf .flowSequenceEnd).bind fun found => ?_
  have hrest (id : Nat) := (h.flowItems false).bind fun ids => stepsFail_pure (id :: ids)
  split
  · exact stepsFail_pure _
  refine stepsFail_comma first _ (stepsFail_peek.bind fun t => ?_)
  split
  · grind
  · refine (stepsFail_add _).bind fun id => stepsFail_skip.bind fun _ => ?_
    refine (h.flowPart .flowSequenceEnd true).bind fun key => (stepsFail_skipIf .value).bind fun found => ?_
    have hpair (value : Nat) := (stepsFail_fill id (.mapping [(key, value)])).bind fun _ => hrest id
    split
    · exact (h.flowPart .flowSequenceEnd false).bind hpair
    · exact stepsFail_empty.bind hpair
  · exact (h.node false false).bind hrest

theorem NodeSteps.flowEntries_succ (h : NodeSteps fuel) (first : Bool) :
    StepsFail composingKinds (Compose.flowEntries (fuel + 1) first) := by
  rw [Compose.flowEntries]
  refine (stepsFail_skipIf .flowMappingEnd).bind fun found => ?_
  have hrest (e : Nat × Nat) := (h.flowEntries false).bind fun es => stepsFail_pure (e :: es)
  split
  · exact stepsFail_pure _
  refine stepsFail_comma first _ (stepsFail_peek.bind fun t => ?_)
  split
  · grind
  · refine stepsFail_skip.bind fun _ => ?_
    refine (h.flowPart .flowMappingEnd true).bind fun key => (stepsFail_skipIf .value).bind fun found => ?_
    split
    · exact (h.flowPart .flowMappingEnd false).bind fun value => hrest (key, value)
    · exact stepsFail_empty.bind fun value => hrest (key, value)
  · exact (h.node false false).bind fun key => stepsFail_empty.bind fun value => hrest (key, value)

/-- **Nodes and what they contain** fail only as composing may. -/
theorem nodeSteps (fuel : Nat) : NodeSteps fuel := by
  induction fuel with
  | zero =>
    constructor
    case node => exact fun _ _ => stepsFail_misplaced _
    case blockItems => exact stepsFail_misplaced _
    case indentlessItems => exact stepsFail_misplaced _
    case blockPart => exact stepsFail_misplaced _
    case blockEntries => exact stepsFail_misplaced _
    case flowItems => exact fun _ => stepsFail_misplaced _
    case flowPart => exact fun _ _ => stepsFail_misplaced _
    case flowEntries => exact fun _ => stepsFail_misplaced _
  | succ fuel ih =>
    exact ⟨ih.node_succ, ih.blockItems_succ, ih.indentlessItems_succ, ih.blockPart_succ, ih.blockEntries_succ,
      ih.flowItems_succ, ih.flowPart_succ, ih.flowEntries_succ⟩

/-! ## Documents -/

theorem stepsFail_skipDocumentEnds (fuel : Nat) : StepsFail composingKinds (skipDocumentEnds fuel) := by
  induction fuel with
  | zero => exact stepsFail_pure ()
  | succ fuel ih =>
    unfold skipDocumentEnds
    grind

theorem stepsFail_directives (fuel : Nat) (versioned : Bool) (handles : List (String × String)) :
    StepsFail composingKinds (directives fuel versioned handles) := by
  induction fuel generalizing versioned handles with
  | zero => exact stepsFail_pure handles
  | succ fuel ih =>
    unfold directives
    refine stepsFail_peek.bind fun t => ?_
    split
    · refine stepsFail_skip.bind fun _ => ?_
      split <;> grind
    · exact stepsFail_pure handles

theorem stepsFail_explicitStart (fuel : Nat) : StepsFail composingKinds (explicitStart fuel) := by
  unfold explicitStart
  refine (stepsFail_skipDocumentEnds fuel).bind fun _ => stepsFail_peek.bind fun t => ?_
  split
  · exact stepsFail_pure false
  refine (stepsFail_directives fuel false []).bind fun handles => stepsFail_peek.bind fun t => ?_
  split
  · exact stepsFail_misplaced _
  · exact stepsFail_skip.bind fun _ => (stepsFail_modify _).bind fun _ => stepsFail_pure true

theorem stepsFail_explicitContent (fuel : Nat) : StepsFail composingKinds (explicitContent fuel) := by
  have hnode := (nodeSteps fuel).node true false
  unfold explicitContent
  refine stepsFail_peek.bind fun t => ?_
  split <;> grind

/-- **The only document** of a text. -/
theorem stepsFail_single (fuel : Nat) : StepsFail composingKinds (single fuel) := by
  have hrest (root : Option Nat) : StepsFail composingKinds (do
      if root.isNone then return none
      else
        let _ ← skipIf .documentEnd
        if ← explicitStart fuel then throw ⟨.node, "expected a single document in the stream"⟩
        else return root) := by
    split
    · exact stepsFail_pure none
    refine (stepsFail_skipIf .documentEnd).bind fun _ => (stepsFail_explicitStart fuel).bind fun more => ?_
    split
    · exact stepsFail_throw (by simp [composingKinds])
    · exact stepsFail_pure root
  unfold single
  refine stepsFail_skip.bind fun _ => stepsFail_peek.bind fun t => .ite ?_ ?_
  · refine (stepsFail_explicitStart fuel).bind fun found => ?_
    split
    · exact ((stepsFail_explicitContent fuel).map some).bind hrest
    · exact hrest none
  · exact (stepsFail_modify _).bind fun _ => (((nodeSteps fuel).node true false).map some).bind hrest

end Compose

/-- **A text with a character that no document may hold** is refused for it, whatever else it holds. -/
theorem ofText?_of_not_isAllowed {cs : List Char} (h : ∃ c ∈ cs, isAllowed c = false) :
    ∃ headline, Document.ofText? cs = .error ⟨.character, headline⟩ := by
  obtain ⟨c, hc, hnot⟩ := h
  have hsome : (cs.find? fun c => !isAllowed c).isSome = true := List.find?_isSome.mpr ⟨c, hc, by simp [hnot]⟩
  obtain ⟨first, hfirst⟩ := Option.isSome_iff_exists.mp hsome
  unfold Document.ofText?
  rw [hfirst]
  exact ⟨_, rfl⟩

/-- **The document of any other text** is refused only as composing may fail. -/
theorem failsOnly_ofText? {cs : List Char} (h : ∀ c ∈ cs, isAllowed c = true) :
    FailsOnly Compose.composingKinds (Document.ofText? cs) := by
  have hnone : (cs.find? fun c => !isAllowed c) = none := by
    rw [List.find?_eq_none]
    intro c hc
    simp [h c hc]
  unfold Document.ofText?
  rw [hnone]
  dsimp only
  split
  · rename_i e he
    exact failsOnly_error_iff.mpr (Compose.stepsFail_single _ _ e he)
  · exact failsOnly_ok _
  · exact failsOnly_ok _

end DumpSummary.Yaml
