import DumpSummary.Proofs.Script.Verbatim

/-!
# What one character does

One character of a script is kept, ends a statement, opens, ends or stands in a comment; nothing else happens.  `Effect`
lists these cases once, with what each one does to the state of the splitter.  What a character does to the line, to the
notes and to the statements found is read off the list.

A hyphen or a slash may open a comment, so the splitter does not keep it before it has seen the next character: until
then it is pending.

## Contents

* `Mode.isOutside`, `Mode.isComment`, `Mode.pending`, `Mode.Proper`: modes;
* `Scan.settle`, `finish_eq`, `step_semicolon`: the end of a statement;
* `Keeps`, `Move`, `move_of_not_comment`: one character outside comments, whatever was kept before it;
* `Scan.Effect`, `effect_step`: **one character**;
* `line_step`, `Noted.step`, `ended_step`, `delimited_step`, `proper_step`: what follows.
-/

namespace DumpSummary.Script

open Scan

/-! ## Modes -/

/-- Outside every quoted run, comment and dollar-quoted body, where a semicolon ends the statement. -/
def Mode.isOutside : Mode → Bool
  | .plain | .hyphen | .slash | .tag _ => true
  | _ => false

/-- In a comment, of which nothing is kept. -/
def Mode.isComment : Mode → Bool
  | .lineComment | .blockComment _ => true
  | _ => false

/-- What was read but is not kept yet: it may open a comment. -/
def Mode.pending : Mode → List Char
  | .hyphen => ['-']
  | .slash => ['/']
  | _ => []

/-- The modes the splitter gets into: no delimiter of a quoted run is blank, and tags end in a dollar sign. -/
def Mode.Proper : Mode → Prop
  | .quoted q | .escaped q => Text.isBlank q = false
  | .body mark _ => mark.head? = some '$'
  | _ => True

theorem Mode.isComment_eq_false {m : Mode} (h : m.isOutside = true) : m.isComment = false := by
  cases m with
  | lineComment => cases h
  | blockComment star => cases h
  | _ => rfl

variable {r : Rules} {m : Mode} {c : Char}

namespace Scan

variable {s : Scan}

theorem keepAll_enter (s : Scan) (m : Mode) (w : List Char) : (s.enter m).keepAll w = (s.keepAll w).enter m := by
  induction w generalizing s with
  | nil => rfl
  | cons c w ih => exact ih (s.keep c)

/-- Keeps what is pending, as no comment was opened. -/
def settle (s : Scan) : Scan := s.keepAll s.mode.pending

theorem kept_settle (s : Scan) : s.settle.kept.reverse = s.kept.reverse ++ s.mode.pending := by
  unfold settle
  rw [kept_keepAll, List.reverse_append, List.reverse_reverse]

/-- **The end of the script** ends the last statement. -/
theorem finish_eq (s : Scan) : s.finish = s.settle.endStatement.ended.reverse := by
  unfold finish settle
  cases s.mode <;> rfl

/-- **A semicolon outside every run** ends the statement. -/
theorem step_semicolon (h : s.mode.isOutside = true) : s.step r ';' = s.settle.endStatement.enter .plain := by
  have hplain : ∀ u : Scan, u.stepPlain r ';' = u.endStatement.enter .plain := fun u => by simp [stepPlain]
  unfold step settle
  cases hm : s.mode with
  | plain => exact hplain s
  | hyphen => exact hplain (s.keep '-')
  | slash => exact hplain (s.keep '/')
  | tag word => exact hplain s
  | quoted q => rw [hm] at h; cases h
  | escaped q => rw [hm] at h; cases h
  | lineComment => rw [hm] at h; cases h
  | blockComment star => rw [hm] at h; cases h
  | body tag read => rw [hm] at h; cases h

end Scan

/-! ## One character outside comments -/

/-- In the mode `m` the character `c` makes the splitter keep `v`, so that nothing of the text gets lost, and go into
    the mode `n`. -/
structure Keeps (r : Rules) (m : Mode) (c : Char) (v : List Char) (n : Mode) : Prop where
  /-- What was pending and the character are kept or pending. -/
  text : m.pending ++ [c] = v ++ n.pending
  /-- No comment is opened. -/
  noComment : n.isComment = false
  /-- This is what the splitter does. -/
  step : ∀ s : Scan, (s.enter m).step r c = (s.keepAll v).enter n

/-- What the character `c` does in the mode `m`, which is no comment. -/
inductive Move (r : Rules) (m : Mode) (c : Char) : Prop
  /-- It is kept. -/
  | keeps {v : List Char} {n : Mode} : Keeps r m c v n → Move r m c
  /-- It ends a statement. -/
  | ends : m.isOutside = true → c = ';' → Move r m c
  /-- It opens a comment to the end of the line; what was pending belongs to the statement. -/
  | number : m.isOutside = true → c = '#' →
    (∀ s : Scan, (s.enter m).step r c = (s.keepAll m.pending).enter .lineComment) → Move r m c
  /-- It makes such a comment of the hyphen that is pending. -/
  | hyphens : m = .hyphen → c = '-' → (∀ s : Scan, (s.enter m).step r c = s.enter .lineComment) → Move r m c
  /-- It makes a block comment of the slash that is pending. -/
  | star : m = .slash → c = '*' →
    (∀ s : Scan, (s.enter m).step r c = s.leaveSpace.enter (.blockComment false)) → Move r m c

/-- What one character does outside every run, when nothing is pending. -/
theorem stepPlain_cases (r : Rules) (c : Char) :
    (∃ v n, n.isComment = false ∧ [c] = v ++ n.pending ∧ ∀ s : Scan, s.stepPlain r c = (s.keepAll v).enter n) ∨
    c = ';' ∨ (c = '#' ∧ ∀ s : Scan, s.stepPlain r c = s.enter .lineComment) := by
  unfold stepPlain
  by_cases hhyphen : c = '-'
  · exact .inl ⟨[], .hyphen, rfl, by rw [hhyphen]; rfl, fun s => if_pos hhyphen⟩
  by_cases hslash : c = '/'
  · exact .inl ⟨[], .slash, rfl, by rw [hslash]; rfl, fun s => by rw [if_neg hhyphen, if_pos hslash]; rfl⟩
  simp only [if_neg hhyphen, if_neg hslash]
  by_cases hhash : c = '#' ∧ r.hashComments = true
  · exact .inr (.inr ⟨hhash.1, fun s => if_pos hhash⟩)
  simp only [if_neg hhash]
  by_cases hdollar : c = '$' ∧ r.dollarBodies = true
  · exact .inl ⟨[c], .tag [], rfl, rfl, fun s => if_pos hdollar⟩
  simp only [if_neg hdollar]
  by_cases hquote : c = '\x27' ∨ c = '\x22' ∨ c = '\x60'
  · exact .inl ⟨[c], .quoted c, rfl, rfl, fun s => if_pos hquote⟩
  simp only [if_neg hquote]
  by_cases hsemi : c = ';'
  · exact .inr (.inl hsemi)
  · exact .inl ⟨[c], .plain, rfl, rfl, fun s => if_neg hsemi⟩

/-- After what is pending is kept, a character does what it does when nothing is pending. -/
theorem move_of_stepPlain (hm : m.isOutside = true)
    (hstep : ∀ s : Scan, (s.enter m).step r c = ((s.keepAll m.pending).enter m).stepPlain r c) : Move r m c := by
  rcases stepPlain_cases r c with ⟨v, n, hn, htext, hplain⟩ | hsemi | ⟨hnumber, hline⟩
  · refine .keeps (v := m.pending ++ v) (n := n) ⟨?_, hn, fun s => ?_⟩
    · rw [htext, List.append_assoc]
    · rw [hstep, hplain, keepAll_enter, keepAll_append]
      rfl
  · exact .ends hm hsemi
  · refine .number hm hnumber fun s => ?_
    rw [hstep, hline]
    rfl

/-- **One character outside comments.** -/
theorem move_of_not_comment (r : Rules) (hm : m.isComment = false) (c : Char) : Move r m c := by
  cases m with
  | plain => exact move_of_stepPlain rfl fun s => rfl
  | hyphen =>
    by_cases hc : c = '-'
    · exact .hyphens rfl hc fun s => if_pos hc
    · exact move_of_stepPlain rfl fun s => if_neg hc
  | slash =>
    by_cases hc : c = '*'
    · refine .star rfl hc fun s => ?_
      show (if c = '*' then _ else _) = _
      rw [if_pos hc, leaveSpace_enter]
      rfl
    · exact move_of_stepPlain rfl fun s => if_neg hc
  | quoted q =>
    by_cases he : c = '\\' ∧ q = '\x27' ∧ r.backslashEscapes = true
    · exact .keeps (v := [c]) (n := .escaped q) ⟨rfl, rfl, fun s => step_quoted_escape he⟩
    · by_cases hq : c = q
      · exact .keeps (v := [c]) (n := .plain) ⟨rfl, rfl, fun s => step_quoted_close he hq⟩
      · exact .keeps (v := [c]) (n := .quoted q) ⟨rfl, rfl, fun s => step_quoted_keep he hq⟩
  | escaped q => exact .keeps (v := [c]) (n := .quoted q) ⟨rfl, rfl, fun s => rfl⟩
  | lineComment => cases hm
  | blockComment star => cases hm
  | tag word =>
    by_cases hd : c = '$'
    · exact .keeps (v := [c]) (n := .body ('$' :: word ++ ['$']) []) ⟨rfl, rfl, fun s => if_pos hd⟩
    · by_cases hw : Text.isWord c = true
      · exact .keeps (v := [c]) (n := .tag (c :: word)) ⟨rfl, rfl, fun s => (if_neg hd).trans (if_pos hw)⟩
      · exact move_of_stepPlain rfl fun s => (if_neg hd).trans (if_neg hw)
  | body tag read =>
    by_cases hc : tag.isPrefixOf (c :: read) = true
    · exact .keeps (v := [c]) (n := .plain) ⟨rfl, rfl, fun s => if_pos hc⟩
    · exact .keeps (v := [c]) (n := .body tag (c :: read)) ⟨rfl, rfl, fun s => if_neg hc⟩

/-! ## One character -/

namespace Scan

variable {s : Scan}

/-- What one character does to the state. -/
inductive Effect (r : Rules) (s : Scan) (c : Char) : Scan → Prop
  /-- It is kept. -/
  | keeps {v : List Char} {n : Mode} : s.mode.isComment = false → Keeps r s.mode c v n →
    Effect r s c ((s.keepAll v).enter n)
  /-- It ends a statement. -/
  | ends : s.mode.isOutside = true → c = ';' → Effect r s c (s.settle.endStatement.enter .plain)
  /-- It opens a comment to the end of the line. -/
  | number : s.mode.isOutside = true → c = '#' → Effect r s c (s.settle.enter .lineComment)
  /-- It makes such a comment of the hyphen that is pending. -/
  | hyphens : s.mode = .hyphen → c = '-' → Effect r s c (s.enter .lineComment)
  /-- It makes a block comment of the slash that is pending. -/
  | star : s.mode = .slash → c = '*' → Effect r s c (s.leaveSpace.enter (.blockComment false))
  /-- It ends a comment to the end of the line. -/
  | endsLine : s.mode = .lineComment → c = '\n' → Effect r s c ((s.keep c).enter .plain)
  /-- It stands in a comment to the end of the line. -/
  | inLine : s.mode = .lineComment → c ≠ '\n' → Effect r s c s
  /-- It ends a block comment. -/
  | endsBlock : s.mode = .blockComment true → c = '/' → Effect r s c (s.enter .plain)
  /-- It stands in a block comment. -/
  | inBlock {star : Bool} : s.mode = .blockComment star → Effect r s c ((s.skip c).enter (.blockComment (c == '*')))

/-- **One character** of the script. -/
theorem effect_step (r : Rules) (s : Scan) (c : Char) : Effect r s c (s.step r c) := by
  cases hm : s.mode.isComment with
  | false =>
    -- what the character does whatever was kept before it, it does to `s`
    cases move_of_not_comment r hm c with
    | keeps hkeeps =>
      have hstep : s.step r c = _ := hkeeps.step s
      rw [hstep]
      exact .keeps hm hkeeps
    | ends ho hc =>
      rw [hc, step_semicolon ho]
      exact .ends ho rfl
    | number ho hc hall =>
      have hstep : s.step r c = s.settle.enter .lineComment := hall s
      rw [hstep]
      exact .number ho hc
    | hyphens hmode hc hall =>
      have hstep : s.step r c = s.enter .lineComment := hall s
      rw [hstep]
      exact .hyphens hmode hc
    | star hmode hc hall =>
      have hstep : s.step r c = s.leaveSpace.enter (.blockComment false) := hall s
      rw [hstep]
      exact .star hmode hc
  | true =>
    unfold step
    cases hs : s.mode with
    | lineComment =>
      dsimp only
      split
      · exact .endsLine hs ‹_›
      · exact .inLine hs ‹_›
    | blockComment star =>
      dsimp only
      split
      · rename_i hc
        exact .endsBlock (by rw [hs, hc.2]) hc.1
      · exact .inBlock hs
    | _ => rw [hs] at hm; cases hm

/-! ## The current line -/

@[simp] theorem line_enter (s : Scan) (m : Mode) : (s.enter m).line = s.line := rfl

@[simp] theorem line_endStatement (s : Scan) : s.endStatement.line = s.line := rfl

@[simp] theorem line_leaveSpace (s : Scan) : s.leaveSpace.line = s.line := by
  unfold leaveSpace
  split <;> rfl

theorem line_keep (s : Scan) (c : Char) : (s.keep c).line = s.line + [c].count '\n' := by
  show (if c = '\n' then s.line + 1 else s.line) = _
  by_cases hc : c = '\n' <;> simp [hc]

theorem line_skip (s : Scan) (c : Char) : (s.skip c).line = s.line + [c].count '\n' := line_keep s c

theorem line_keepAll (s : Scan) (w : List Char) : (s.keepAll w).line = s.line + w.count '\n' := by
  induction w generalizing s with
  | nil => rfl
  | cons c w ih =>
    show ((s.keep c).keepAll w).line = _
    rw [ih, line_keep, Nat.add_assoc, ← List.count_append]
    rfl

theorem line_skipAll (s : Scan) (w : List Char) : (s.skipAll w).line = s.line + w.count '\n' := by
  induction w generalizing s with
  | nil => rfl
  | cons c w ih =>
    show ((s.skip c).skipAll w).line = _
    rw [ih, line_skip, Nat.add_assoc, ← List.count_append]
    rfl

/-- No line break is ever pending. -/
theorem count_pending (m : Mode) : m.pending.count '\n' = 0 := by
  cases m <;> rfl

@[simp] theorem line_settle (s : Scan) : s.settle.line = s.line := by
  unfold settle
  rw [line_keepAll, count_pending]
  rfl

/-- **The line** goes down with every line break, whatever run it stands in. -/
theorem line_step (s : Scan) (c : Char) : (s.step r c).line = s.line + [c].count '\n' := by
  have heffect := effect_step r s c
  generalize s.step r c = t at heffect ⊢
  cases heffect with
  | @keeps v n _ hkeeps =>
    have hcount : [c].count '\n' = v.count '\n' := by
      have h := congrArg (List.count '\n') hkeeps.text
      rw [List.count_append, List.count_append, count_pending, count_pending] at h
      omega
    rw [line_enter, line_keepAll, hcount]
  | ends _ hc => simp [hc]
  | number _ hc => simp [hc]
  | hyphens _ hc => simp [hc]
  | star _ hc => simp [hc]
  | endsLine _ _ => exact line_keep s c
  | inLine _ hc => simp [hc]
  | endsBlock _ hc => simp [hc]
  | inBlock _ => exact line_skip s c

/-- The splitter is on the line that it has read up to. -/
theorem line_foldl_step (s : Scan) (cs : List Char) : (cs.foldl (step r) s).line = s.line + cs.count '\n' := by
  induction cs generalizing s with
  | nil => rfl
  | cons c cs ih =>
    rw [List.foldl_cons, ih, line_step, Nat.add_assoc, ← List.count_append]
    rfl

/-! ## The notes and the statements -/

/-- **The line of a statement is noted**, one character later. -/
theorem Noted.step (h : s.Noted) (c : Char) : (s.step r c).Noted := by
  have heffect := effect_step r s c
  generalize s.step r c = t at heffect ⊢
  cases heffect with
  | @keeps v _ _ _ => exact noted_keepAll h v
  | ends _ _ => exact noted_endStatement (s := s.settle)
  | number _ _ => exact noted_keepAll h s.mode.pending
  | hyphens _ _ => exact h
  | star _ _ => exact noted_leaveSpace h
  | endsLine _ _ => exact noted_keep h c
  | inLine _ _ => exact h
  | endsBlock _ _ => exact h
  | inBlock _ => exact h

/-- **Only the end of a statement** adds to the statements. -/
theorem ended_step (s : Scan) (c : Char) :
    (s.step r c).ended = s.ended ∨
      s.mode.isOutside = true ∧ (s.step r c).ended = s.settle.endStatement.ended := by
  have heffect := effect_step r s c
  generalize s.step r c = t at heffect ⊢
  cases heffect with
  | @keeps v _ _ _ => exact .inl (ended_keepAll v)
  | ends hm _ => exact .inr ⟨hm, rfl⟩
  | number _ _ => exact .inl (ended_keepAll s.mode.pending)
  | hyphens _ _ => exact .inl rfl
  | star _ _ => exact .inl ended_leaveSpace
  | endsLine _ _ => exact .inl rfl
  | inLine _ _ => exact .inl rfl
  | endsBlock _ _ => exact .inl rfl
  | inBlock _ => exact .inl rfl

end Scan

/-! ## Which modes come about -/

/-- The delimiters of quoted runs are of the kind `D`, and tags end in a dollar sign. -/
def Mode.Delimited (D : Char → Prop) : Mode → Prop
  | .quoted q | .escaped q => D q
  | .body mark _ => mark.head? = some '$'
  | _ => True

section Delimited

variable {D : Char → Prop}

theorem Mode.delimited_of_isOutside (hm : m.isOutside = true) : m.Delimited D := by
  cases m with
  | plain => trivial
  | hyphen => trivial
  | slash => trivial
  | tag word => trivial
  | _ => cases hm

theorem Mode.Delimited.mono {E : Char → Prop} (h : m.Delimited D) (hDE : ∀ q, D q → E q) : m.Delimited E := by
  cases m with
  | quoted q => exact hDE q h
  | escaped q => exact hDE q h
  | body mark read => exact h
  | _ => trivial

theorem delimited_stepPlain (hD : c = '\x27' ∨ c = '\x22' ∨ c = '\x60' → D c) (s : Scan) :
    (s.stepPlain r c).mode.Delimited D := by
  unfold stepPlain
  split
  · trivial
  split
  · trivial
  split
  · trivial
  split
  · trivial
  split
  · exact hD ‹_›
  split <;> trivial

/-- **The delimiters** of the modes the splitter gets into are the quotes that it reads. -/
theorem delimited_step (hD : c = '\x27' ∨ c = '\x22' ∨ c = '\x60' → D c) {s : Scan} (h : s.mode.Delimited D) :
    (s.step r c).mode.Delimited D := by
  unfold step
  cases hm : s.mode with
  | plain => exact delimited_stepPlain hD s
  | hyphen =>
    dsimp only
    split
    · trivial
    · exact delimited_stepPlain hD (s.keep '-')
  | slash =>
    dsimp only
    split
    · trivial
    · exact delimited_stepPlain hD (s.keep '/')
  | quoted q =>
    have hq : D q := by rwa [hm] at h
    dsimp only
    split
    · exact hq
    · split
      · trivial
      · exact h
  | escaped q =>
    rw [hm] at h
    exact h
  | lineComment =>
    dsimp only
    split
    · trivial
    · exact h
  | blockComment star =>
    dsimp only
    split <;> trivial
  | tag word =>
    -- a second dollar sign makes the tag, which begins with the first
    dsimp only
    split
    · rfl
    · split
      · trivial
      · exact delimited_stepPlain hD s
  | body mark read =>
    rw [hm] at h
    dsimp only
    split
    · trivial
    · exact h

end Delimited

theorem Mode.proper_iff : m.Proper ↔ m.Delimited (Text.isBlank · = false) := by
  cases m <;> exact Iff.rfl

/-- **Every mode** the splitter gets into is proper. -/
theorem proper_step {s : Scan} (h : s.mode.Proper) (c : Char) : (s.step r c).mode.Proper := by
  refine Mode.proper_iff.mpr (delimited_step ?_ (Mode.proper_iff.mp h))
  rintro (rfl | rfl | rfl) <;> rfl

/-- A run that is no comment is left by a character that is not blank, and nothing is pending then. -/
theorem Keeps.leaves_run {v : List Char} {n : Mode} (h : Keeps r m c v n) (hm : m.Proper)
    (hcomment : m.isComment = false) (hinside : m.isOutside = false) (hn : n.isOutside = true) :
    n = .plain ∧ Text.isBlank c = false := by
  have hmode : ((initial.enter m).step r c).mode = n := by
    rw [h.step]
    rfl
  cases m with
  | plain => cases hinside
  | hyphen => cases hinside
  | slash => cases hinside
  | tag word => cases hinside
  | lineComment => cases hcomment
  | blockComment star => cases hcomment
  | quoted q =>
    by_cases he : c = '\\' ∧ q = '\x27' ∧ r.backslashEscapes = true
    · rw [step_quoted_escape he] at hmode
      subst hmode
      cases hn
    · by_cases hq : c = q
      · rw [step_quoted_close he hq] at hmode
        rw [hq]
        exact ⟨hmode.symm, hm⟩
      · rw [step_quoted_keep he hq] at hmode
        subst hmode
        cases hn
  | escaped q =>
    subst hmode
    cases hn
  | body mark read =>
    by_cases hc : mark.isPrefixOf (c :: read) = true
    · have hstep : (initial.enter (.body mark read)).step r c = (initial.keep c).enter .plain := if_pos hc
      rw [hstep] at hmode
      refine ⟨hmode.symm, ?_⟩
      -- the last character of the tag is a dollar sign
      cases mark with
      | nil => cases hm
      | cons d mark =>
        obtain rfl : d = '$' := Option.some.inj hm
        have hc' : '$' = c := by
          simp only [List.isPrefixOf, Bool.and_eq_true, beq_iff_eq] at hc
          exact hc.1
        rw [← hc']
        rfl
    · have hstep : (initial.enter (.body mark read)).step r c = (initial.keep c).enter (.body mark (c :: read)) :=
        if_neg hc
      rw [hstep] at hmode
      subst hmode
      cases hn

/-- If a character that is kept leads outside every run, and it is blank or something stays open behind it, then the
    splitter was outside every run before. -/
theorem Keeps.isOutside {v : List Char} {n : Mode} (h : Keeps r m c v n) (hm : m.Proper)
    (hcomment : m.isComment = false) (hn : n.isOutside = true) (hstays : n ≠ .plain ∨ Text.isBlank c = true) :
    m.isOutside = true := by
  cases hinside : m.isOutside with
  | true => rfl
  | false =>
    obtain ⟨hplain, hblank⟩ := h.leaves_run hm hcomment hinside hn
    rcases hstays with hne | hc
    · exact absurd hplain hne
    · rw [hblank] at hc
      cases hc

end DumpSummary.Script
