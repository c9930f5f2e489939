import DumpSummary.Yaml.TokenStream

/-!
# How scanning fails

Each stage of reading a document has its own ways to fail.  Finding the tokens of a text fails where its characters
form no token, and at one place more: the code of a character behind a backslash may be no character.  Then there is a
wrong value, or, if the code is larger still, a number too large for the machine.

Every function of the stage is taken through, from the parts of scalars up to the next token of a stream.

## Contents

* `FailsOnly`: computations that fail with faults of some kinds only;
* `failsOnly_ok`, `failsOnly_error_iff`, `FailsOnly.map`, `FailsOnly.bind`, `FailsOnly.foldlM`, `FailsOnly.mapM`: how
  they are put together;
* `scanningKinds`: the kinds of this stage;
* `failsOnly_quotedScalar`, `failsOnly_blockScalar`: scalars;
* `failsOnly_nodeName`, `failsOnly_tagToken`, `failsOnly_directiveToken`: names, tags and directives;
* `failsOnly_fetch`, `failsOnly_peek`: **the tokens of a text.**
-/

namespace DumpSummary.Yaml

/-! ## Kinds of faults -/

section Kinds

variable {α β σ : Type} {kinds : List FaultKind}

/-- If the computation fails, then with a fault of one of the kinds. -/
def FailsOnly (kinds : List FaultKind) (x : Except Fault α) : Prop := ∀ e, x = .error e → e.kind ∈ kinds

@[grind .] theorem failsOnly_ok (a : α) : FailsOnly kinds (.ok a) := by
  intro e h
  cases h

@[grind .] theorem failsOnly_pure (a : α) : FailsOnly kinds (pure a) := failsOnly_ok a

@[grind =] theorem failsOnly_error_iff {e : Fault} : FailsOnly kinds (.error e : Except Fault α) ↔ e.kind ∈ kinds := by
  constructor
  · exact fun h => h e rfl
  · intro h e' he
    cases he
    exact h

@[grind ←] theorem FailsOnly.map {x : Except Fault α} (h : FailsOnly kinds x) (f : α → β) :
    FailsOnly kinds (x.map f) := by
  cases x with
  | error e => exact failsOnly_error_iff.mpr (h e rfl)
  | ok a => exact failsOnly_ok (f a)

@[grind ←] theorem FailsOnly.bind {x : Except Fault α} {f : α → Except Fault β} (hx : FailsOnly kinds x)
    (hf : ∀ a, FailsOnly kinds (f a)) : FailsOnly kinds (x >>= f) := by
  cases x with
  | error e => exact failsOnly_error_iff.mpr (hx e rfl)
  | ok a => exact hf a

/-- A computation for each item of a list, one after the other. -/
theorem FailsOnly.foldlM {f : σ → α → Except Fault σ} (hf : ∀ s a, FailsOnly kinds (f s a)) (as : List α) (s : σ) :
    FailsOnly kinds (as.foldlM f s) := by
  induction as generalizing s with
  | nil => exact failsOnly_ok s
  | cons a as ih => exact (hf s a).bind ih

/-- A computation for each item of a list, with all results. -/
theorem FailsOnly.mapM {f : α → Except Fault β} (hf : ∀ a, FailsOnly kinds (f a)) (as : List α) :
    FailsOnly kinds (as.mapM f) := by
  induction as with
  | nil => exact failsOnly_ok []
  | cons a as ih =>
    rw [List.mapM_cons]
    exact (hf a).bind fun _ => ih.bind fun _ => failsOnly_pure _

theorem FailsOnly.ite {p : Prop} [Decidable p] {x y : Except Fault α} (hx : FailsOnly kinds x)
    (hy : FailsOnly kinds y) : FailsOnly kinds (if p then x else y) := by
  split
  · exact hx
  · exact hy

end Kinds

/-! ## Scalars -/

variable {α : Type}

/-- How scanning may fail. -/
def scanningKinds : List FaultKind := [.token, .value, .overflow]

@[grind! .] theorem failsOnly_tokenFault (headline : String) :
    FailsOnly scanningKinds (tokenFault headline : Except Fault α) := failsOnly_error_iff.mpr List.mem_cons_self

/-- **The code of a character** is where scanning may fail for another reason than a wrong token. -/
@[grind! .] theorem failsOnly_codeChar (n : Nat) : FailsOnly scanningKinds (codeChar n) := by
  unfold codeChar
  split
  · exact failsOnly_ok _
  split
  · exact failsOnly_error_iff.mpr (by decide)
  · exact failsOnly_error_iff.mpr (by decide)

@[grind! .] theorem failsOnly_quotedBreaks (fuel : Nat) (c : Cursor) :
    FailsOnly scanningKinds (quotedBreaks fuel c) := by
  induction fuel generalizing c with
  | zero => exact failsOnly_ok _
  | succ fuel ih =>
    unfold quotedBreaks
    grind

@[grind! .] theorem failsOnly_quotedSpaces (c : Cursor) : FailsOnly scanningKinds (quotedSpaces c) := by
  unfold quotedSpaces
  grind

@[grind! .] theorem failsOnly_escape (c : Cursor) : FailsOnly scanningKinds (escape c) := by
  unfold escape
  grind

theorem failsOnly_quotedInside (double : Bool) (fuel : Nat) (c : Cursor) :
    FailsOnly scanningKinds (quotedInside double fuel c) := by
  induction fuel generalizing c with
  | zero => exact failsOnly_tokenFault _
  | succ fuel ih =>
    unfold quotedInside
    grind

/-- **A scalar in quotes.** -/
@[grind! .] theorem failsOnly_quotedScalar (double : Bool) (c : Cursor) :
    FailsOnly scanningKinds (quotedScalar double c) := failsOnly_quotedInside double _ _

@[grind! .] theorem failsOnly_blockIncrement (c : Cursor) : FailsOnly scanningKinds (blockIncrement c) := by
  unfold blockIncrement
  grind

@[grind! .] theorem failsOnly_blockHeader (c : Cursor) : FailsOnly scanningKinds (blockHeader c) := by
  unfold blockHeader
  grind

@[grind! .] theorem failsOnly_blockLineRest (c : Cursor) : FailsOnly scanningKinds (blockLineRest c) := by
  unfold blockLineRest
  grind

/-- **A block of lines.** -/
@[grind! .] theorem failsOnly_blockScalar (fold : Bool) (outer : Int) (c : Cursor) :
    FailsOnly scanningKinds (blockScalar fold outer c) := by
  unfold blockScalar
  grind

/-! ## Names, tags and directives -/

@[grind! .] theorem failsOnly_nodeName (headline : String) (c : Cursor) :
    FailsOnly scanningKinds (nodeName headline c) := by
  unfold nodeName
  grind

@[grind! .] theorem failsOnly_tagHandle (headline : String) (c : Cursor) :
    FailsOnly scanningKinds (tagHandle headline c) := by
  unfold tagHandle
  grind

@[grind! .] theorem failsOnly_tagEscapes (headline : String) (fuel : Nat) (c : Cursor) :
    FailsOnly scanningKinds (tagEscapes headline fuel c) := by
  induction fuel generalizing c with
  | zero => exact failsOnly_ok _
  | succ fuel ih =>
    unfold tagEscapes
    grind

@[grind! .] theorem failsOnly_tagChars (headline : String) (fuel : Nat) (c : Cursor) :
    FailsOnly scanningKinds (tagChars headline fuel c) := by
  induction fuel generalizing c with
  | zero => exact failsOnly_ok _
  | succ fuel ih =>
    unfold tagChars
    grind

@[grind! .] theorem failsOnly_tagText (name : String) (c : Cursor) : FailsOnly scanningKinds (tagText name c) := by
  unfold tagText
  grind

/-- **A tag.** -/
@[grind! .] theorem failsOnly_tagToken (c : Cursor) : FailsOnly scanningKinds (tagToken c) := by
  unfold tagToken
  grind

@[grind! .] theorem failsOnly_directiveFault : FailsOnly scanningKinds (directiveFault : Except Fault α) :=
  failsOnly_tokenFault _

@[grind! .] theorem failsOnly_versionNumber (c : Cursor) : FailsOnly scanningKinds (versionNumber c) := by
  unfold versionNumber
  grind

@[grind! .] theorem failsOnly_versionDirective (c : Cursor) : FailsOnly scanningKinds (versionDirective c) := by
  unfold versionDirective
  grind

@[grind! .] theorem failsOnly_handleDirective (c : Cursor) : FailsOnly scanningKinds (handleDirective c) := by
  unfold handleDirective
  grind

/-- **A directive.** -/
@[grind! .] theorem failsOnly_directiveToken (c : Cursor) : FailsOnly scanningKinds (directiveToken c) := by
  unfold directiveToken
  grind

/-! ## Tokens -/

namespace TokenStream

variable (s : TokenStream)

@[grind! .] theorem failsOnly_lostKey : FailsOnly scanningKinds (lostKey : Except Fault α) := failsOnly_tokenFault _

@[grind! .] theorem failsOnly_dropStale : FailsOnly scanningKinds s.dropStale := by
  unfold dropStale
  grind

@[grind! .] theorem failsOnly_dropCandidate : FailsOnly scanningKinds s.dropCandidate := by
  unfold dropCandidate
  grind

@[grind! .] theorem failsOnly_markCandidate : FailsOnly scanningKinds s.markCandidate := by
  unfold markCandidate
  grind

@[grind! .] theorem failsOnly_blockForSign (headline : String) (t : Token) :
    FailsOnly scanningKinds (s.blockForSign headline t) := by
  unfold blockForSign
  grind

@[grind! .] theorem failsOnly_fetchEnd : FailsOnly scanningKinds s.fetchEnd := by
  unfold fetchEnd
  grind

@[grind ←] theorem failsOnly_fetchLine {read : Cursor → Except Fault (Token × Cursor)}
    (h : ∀ c, FailsOnly scanningKinds (read c)) : FailsOnly scanningKinds (s.fetchLine read) := by
  unfold fetchLine
  grind

@[grind ←] theorem failsOnly_fetchKeyLike {read : Cursor → Except Fault (Token × Cursor)}
    (h : ∀ c, FailsOnly scanningKinds (read c)) : FailsOnly scanningKinds (s.fetchKeyLike read) := by
  unfold fetchKeyLike
  grind

@[grind! .] theorem failsOnly_fetchBlockEntry : FailsOnly scanningKinds s.fetchBlockEntry := by
  unfold fetchBlockEntry
  grind

@[grind! .] theorem failsOnly_fetchKey : FailsOnly scanningKinds s.fetchKey := by
  unfold fetchKey
  grind

@[grind! .] theorem failsOnly_fetchValue : FailsOnly scanningKinds s.fetchValue := by
  unfold fetchValue
  grind

@[grind! .] theorem failsOnly_fetchBlockScalar (fold : Bool) : FailsOnly scanningKinds (s.fetchBlockScalar fold) := by
  unfold fetchBlockScalar
  grind

theorem failsOnly_fetchAt : FailsOnly scanningKinds s.fetchAt := by
  unfold fetchAt fetchOpening fetchClosing fetchComma fetchPlain
  dsimp only
  -- one case for each sign that a token may begin with
  repeat' refine FailsOnly.ite ?_ ?_
  all_goals grind

/-- **Reading on** in a text. -/
@[grind! .] theorem failsOnly_fetch : FailsOnly scanningKinds s.fetch := by
  unfold fetch
  grind [failsOnly_fetchAt]

theorem failsOnly_settle (fuel : Nat) : FailsOnly scanningKinds (settle fuel s) := by
  induction fuel generalizing s with
  | zero => exact failsOnly_ok s
  | succ fuel ih =>
    unfold settle
    grind

/-- **The next token** of a text. -/
theorem failsOnly_peek : FailsOnly scanningKinds s.peek := (failsOnly_settle s _).map _

end TokenStream
end DumpSummary.Yaml
