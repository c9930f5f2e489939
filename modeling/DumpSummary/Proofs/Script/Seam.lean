import DumpSummary.Proofs.Script.Step

/-!
# Scripts side by side

A semicolon outside every run is a seam: the splitter goes on after it as it starts a script, only that it is some
lines further down and has found some statements.  So a script that ends in such a semicolon and any script behind it
are split apart from each other.  A comment between the two moves the lines of the second and nothing else.

## Contents

* `lineBreaks`, `Fragment.shift`: fragments further down;
* `Scan.Follows`: a state like another one, further down; `run_follows`: so is what is found from there;
* `EndsStatement`, `follows_of_endsStatement`: a seam;
* `Comment`, `run_comment_at_seam`: a comment at a seam;
* `split_append`: **scripts side by side.**
-/

namespace DumpSummary.Script

/-! ## Further down -/

/-- The number of line breaks in a text. -/
def lineBreaks (script : String) : Nat := script.toList.count '\n'

/-- Lines that many lines further down. -/
def LineRange.shift (k : Nat) (l : LineRange) : LineRange := ⟨l.first + k, l.last + k⟩

/-- The fragment that many lines further down. -/
def Fragment.shift (k : Nat) (f : Fragment) : Fragment := ⟨f.text, f.lines.shift k⟩

namespace Scan

variable {r : Rules} {k : Nat} {found : List Fragment} {s t : Scan} {c : Char}

/-- `t` is as `s`, but `k` lines further down, with blanks before the current statement, and with fragments found
    before. -/
structure Follows (k : Nat) (found : List Fragment) (s t : Scan) : Prop where
  /-- The current line. -/
  line : t.line = s.line + k
  /-- The line of the current statement. -/
  start : t.start = s.start.map (· + k)
  /-- The text of the current statement. -/
  kept : ∃ gap, (∀ c ∈ gap, Text.isBlank c = true) ∧ t.kept = s.kept ++ gap
  /-- The statements. -/
  ended : t.ended = s.ended.map (Fragment.shift k) ++ found

theorem Follows.keep (h : Follows k found s t) (c : Char) : Follows k found (s.keep c) (t.keep c) := by
  obtain ⟨gap, hgap, hkept⟩ := h.kept
  constructor
  · show (if c = '\n' then t.line + 1 else t.line) = (if c = '\n' then s.line + 1 else s.line) + k
    rw [h.line]
    split <;> omega
  · show (if t.start.isNone && !Text.isBlank c then some t.line else t.start) =
      (if s.start.isNone && !Text.isBlank c then some s.line else s.start).map (· + k)
    rw [h.start, h.line]
    cases s.start <;> cases Text.isBlank c <;> rfl
  · exact ⟨gap, hgap, congrArg (c :: ·) hkept⟩
  · exact h.ended

theorem Follows.keepAll (h : Follows k found s t) (w : List Char) : Follows k found (s.keepAll w) (t.keepAll w) := by
  induction w generalizing s t with
  | nil => exact h
  | cons c w ih => exact ih (h.keep c)

theorem Follows.skipAll (h : Follows k found s t) (w : List Char) : Follows k found (s.skipAll w) (t.skipAll w) := by
  induction w generalizing s t with
  | nil => exact h
  | cons c w ih =>
    refine ih ⟨?_, h.start, h.kept, h.ended⟩
    show (if c = '\n' then t.line + 1 else t.line) = (if c = '\n' then s.line + 1 else s.line) + k
    rw [h.line]
    split <;> omega

theorem Follows.leaveSpace (h : Follows k found s t) : Follows k found s.leaveSpace t.leaveSpace := by
  have hstart : t.start.isSome = s.start.isSome := by
    rw [h.start, Option.isSome_map]
  unfold Scan.leaveSpace
  rw [hstart]
  by_cases hs : s.start.isSome = true
  · obtain ⟨gap, hgap, hkept⟩ := h.kept
    rw [if_pos hs, if_pos hs]
    exact ⟨h.line, h.start, ⟨gap, hgap, congrArg (' ' :: ·) hkept⟩, h.ended⟩
  · rw [if_neg hs, if_neg hs]
    exact h

/-- If something is left of a statement, the line of its first character was noted. -/
theorem isSome_start_of_strip (hs : s.Noted) (h : ¬ (Text.strip s.kept.reverse).isEmpty = true) :
    s.start.isSome = true := by
  rw [hs]
  cases hany : s.kept.any (!Text.isBlank ·) with
  | true => rfl
  | false =>
    have hblank : ∀ c ∈ s.kept.reverse, Text.isBlank c = true := by
      simpa using hany
    rw [strip_of_blank hblank] at h
    exact absurd rfl h

/-- The end of a statement leaves nothing of the blanks before it. -/
theorem Follows.endStatement (h : Follows k found s t) (hs : s.Noted) :
    Follows k found s.endStatement t.endStatement := by
  obtain ⟨gap, hgap, hkept⟩ := h.kept
  have htext : Text.strip t.kept.reverse = Text.strip s.kept.reverse := by
    rw [hkept, List.reverse_append, strip_blank_append fun c hc => hgap c (List.mem_reverse.mp hc)]
  refine ⟨h.line, rfl, ⟨[], fun _ hc => (List.not_mem_nil hc).elim, rfl⟩, ?_⟩
  unfold Scan.endStatement
  dsimp only
  rw [htext]
  by_cases he : (Text.strip s.kept.reverse).isEmpty = true
  · rw [if_pos he, if_pos he]
    exact h.ended
  · -- something is left of the statement, so its line was noted
    obtain ⟨line, hline⟩ := Option.isSome_iff_exists.mp (isSome_start_of_strip hs he)
    rw [if_neg he, if_neg he, h.start, h.line, h.ended, hline]
    rfl

/-- **One lexeme**, further down. -/
theorem Follows.absorb (h : Follows k found s t) (hs : s.Noted) (l : Lexeme) :
    Follows k found (s.absorb l) (t.absorb l) := by
  cases l with
  | lineComment w => exact h
  | blockComment w => exact h.leaveSpace.skipAll w
  | semicolon => exact h.endStatement hs
  | quoted w => exact h.keepAll w
  | body w => exact h.keepAll w
  | single c => exact h.keep c

/-- **All lexemes**, further down. -/
theorem Follows.foldl_absorb (h : Follows k found s t) (hs : s.Noted) (ls : List Lexeme) :
    Follows k found (ls.foldl Scan.absorb s) (ls.foldl Scan.absorb t) ∧ (ls.foldl Scan.absorb s).Noted := by
  induction ls generalizing s t with
  | nil => exact ⟨h, hs⟩
  | cons l ls ih => exact ih (h.absorb hs l) (noted_absorb hs l)

/-- **What is found further down** is what is found above, further down and behind what was found before. -/
theorem run_follows (h : Follows k found s t) (hs : s.Noted) (cs : List Char) :
    run r (t.enter .plain) cs = found.reverse ++ (run r (s.enter .plain) cs).map (Fragment.shift k) := by
  rw [run_eq_foldl_absorb, run_eq_foldl_absorb]
  obtain ⟨hfollows, hnoted⟩ := h.foldl_absorb hs (lexemes r cs)
  show ((lexemes r cs).foldl Scan.absorb t).endStatement.ended.reverse = _
  rw [(hfollows.endStatement hnoted).ended, List.reverse_append, ← List.map_reverse]
  rfl

end Scan

/-! ## Seams -/

open Scan

variable {dialect : Option String} {a : String}

/-- The state after a script. -/
def stateAfter (dialect : Option String) (script : String) : Scan :=
  script.toList.foldl (step (Rules.ofDialect dialect)) initial

theorem split_eq_finish : split dialect a = (stateAfter dialect a).finish := rfl

/-- The script ends in a semicolon that the splitter, when it comes to it, takes for the end of a statement. -/
def EndsStatement (dialect : Option String) (script : String) : Prop :=
  ∃ before, script.toList = before ++ [';'] ∧
    (before.foldl (step (Rules.ofDialect dialect)) initial).mode.isOutside = true

/-- **A seam.**  After a script that ends a statement the splitter is outside every run and goes on as it starts, with
    the lines and the statements of the script behind it. -/
theorem follows_of_endsStatement (h : EndsStatement dialect a) :
    (stateAfter dialect a).mode = .plain ∧
      Follows (lineBreaks a) (split dialect a).reverse initial (stateAfter dialect a) := by
  obtain ⟨before, hscript, houtside⟩ := h
  have hline : (stateAfter dialect a).line = 1 + lineBreaks a := line_foldl_step initial a.toList
  -- the last step ends the statement
  have hlast : ∃ s : Scan, stateAfter dialect a = s.endStatement.enter .plain := by
    unfold stateAfter
    rw [hscript, List.foldl_append]
    exact ⟨_, step_semicolon houtside⟩
  obtain ⟨s, hs⟩ := hlast
  have hended : split dialect a = s.endStatement.ended.reverse := by
    rw [split_eq_finish, hs]
    rfl
  refine ⟨by rw [hs]; rfl, ⟨?_, ?_, ?_, ?_⟩⟩
  · rw [hline]; rfl
  · rw [hs]; rfl
  · refine ⟨[], fun _ hc => (List.not_mem_nil hc).elim, ?_⟩
    rw [hs]; rfl
  · rw [hs, hended, List.reverse_reverse]; rfl

/-- A script starts at a seam. -/
theorem follows_empty :
    (stateAfter dialect "").mode = .plain ∧
      Follows (lineBreaks "") (split dialect "").reverse initial (stateAfter dialect "") :=
  ⟨rfl, rfl, rfl, ⟨[], fun _ hc => (List.not_mem_nil hc).elim, rfl⟩, rfl⟩

/-! ## Comments at a seam -/

/-- A whole comment: up to the first star and slash, or to the end of its line with the line break. -/
inductive Comment (r : Rules) : List Char → Prop
  /-- Between a slash with a star and a star with a slash. -/
  | block {w : List Char} : ¬ ['*', '/'] <:+: w → Comment r ('/' :: '*' :: (w ++ ['*', '/']))
  /-- Behind two hyphens. -/
  | hyphens {w : List Char} : '\n' ∉ w → Comment r ('-' :: '-' :: (w ++ ['\n']))
  /-- Behind a number sign, where it opens a comment. -/
  | number {w : List Char} : r.hashComments = true → '\n' ∉ w → Comment r ('#' :: (w ++ ['\n']))

variable {r : Rules} {k : Nat} {found : List Fragment} {t : Scan}

/-- A block comment at a seam moves the line. -/
theorem run_block_at_seam (ht : Follows k found initial t) {w : List Char} (hw : ¬ ['*', '/'] <:+: w) (cs : List Char) :
    run r (t.enter .plain) ('/' :: '*' :: (w ++ ['*', '/']) ++ cs) =
      run r ((t.skipAll ('/' :: '*' :: (w ++ ['*', '/']))).enter .plain) cs := by
  -- the comment is cut where it ends
  have hinside : ¬ ['*', '/'] <:+: w ++ ['*'] := by
    rw [List.infix_concat_iff]
    rintro (hend | hbefore)
    · have hlast := List.IsSuffix.getLast hend (by simp)
      simp at hlast
    · exact hw hbefore
  have hcut : cutThrough ['*', '/'] (w ++ ['*', '/'] ++ cs) = (w ++ ['*', '/'], cs) := by
    have hends : ['*', '/'] <:+ (w ++ ['*']) ++ ['/'] := ⟨w, by simp⟩
    simpa using cutThrough_append hinside hends
  -- nothing is there that a space could be left behind
  have hspace : t.leaveSpace = t := by
    unfold leaveSpace
    rw [ht.start]
    rfl
  show run r (t.stepPlain r '/') ('*' :: (w ++ ['*', '/'] ++ cs)) = _
  rw [run_opensBlockComment (by rfl), List.tail_cons, hcut, hspace]

/-- A comment to the end of its line leaves the line break. -/
theorem run_line_at_seam {c : Char} {w cs : List Char} (hopens : opensLineComment r (c :: (w ++ '\n' :: cs)) = true)
    (hw : '\n' ∉ w) : run r (t.enter .plain) (c :: (w ++ '\n' :: cs)) = run r ((t.keep '\n').enter .plain) cs := by
  have hline : (w ++ '\n' :: cs).dropWhile (· ≠ '\n') = '\n' :: cs := by
    rw [List.dropWhile_append_of_pos]
    · rfl
    · intro d hd
      have hne : d ≠ '\n' := fun he => hw (he ▸ hd)
      simpa using hne
  show run r (t.stepPlain r c) (w ++ '\n' :: cs) = _
  rw [run_opensLineComment hopens, hline]
  rfl

/-- What is passed over at a seam moves the line. -/
theorem Scan.Follows.skip_at_seam (ht : Follows k found initial t) (w : List Char) :
    Follows (k + w.count '\n') found initial (t.skipAll w) := by
  have hline : (t.skipAll w).line = 1 + (k + w.count '\n') := by
    rw [line_skipAll, ht.line, ← Nat.add_assoc]
    rfl
  obtain ⟨line, hskip⟩ := skipAll_eq (s := t) w
  refine ⟨hline, ?_, ?_, ?_⟩
  · rw [hskip]
    exact ht.start
  · rw [hskip]
    exact ht.kept
  · rw [hskip]
    exact ht.ended

/-- Blanks at a seam move the line. -/
theorem Scan.Follows.blanks_at_seam (ht : Follows k found initial t) {w : List Char}
    (hw : ∀ c ∈ w, Text.isBlank c = true) : Follows (k + w.count '\n') found initial (t.keepAll w) := by
  induction w generalizing k t with
  | nil => exact ht
  | cons c w ih =>
    have hc : Text.isBlank c = true := hw c List.mem_cons_self
    obtain ⟨gap, hgap, hkept⟩ := ht.kept
    have hkeep : Follows (k + [c].count '\n') found initial (t.keep c) := by
      refine ⟨?_, ?_, ⟨c :: gap, ?_, congrArg (c :: ·) hkept⟩, ht.ended⟩
      · rw [line_keep, ht.line, Nat.add_assoc]
      · show (if t.start.isNone && !Text.isBlank c then some t.line else t.start) = none
        rw [ht.start, hc]
        rfl
      · intro d hd
        rcases List.mem_cons.mp hd with rfl | hd
        · exact hc
        · exact hgap d hd
    have hall := ih hkeep fun d hd => hw d (List.mem_cons_of_mem c hd)
    rw [Nat.add_assoc, ← List.count_append] at hall
    exact hall

theorem isBlank_of_mem_lineBreak {c : Char} (hc : c ∈ ['\n']) : Text.isBlank c = true := by
  rw [List.mem_singleton.mp hc]
  rfl

/-- **A comment at a seam** moves the line, and that is all. -/
theorem run_comment_at_seam {w : List Char} (hw : Comment r w) (ht : Follows k found initial t) :
    ∃ u, Follows (k + w.count '\n') found initial u ∧
      ∀ cs, run r (t.enter .plain) (w ++ cs) = run r (u.enter .plain) cs := by
  have hbreak : Follows (k + 1) found initial (t.keep '\n') :=
    ht.blanks_at_seam (w := ['\n']) fun c hc => isBlank_of_mem_lineBreak hc
  cases hw with
  | @block v hv => exact ⟨t.skipAll _, ht.skip_at_seam _, run_block_at_seam ht hv⟩
  | @hyphens v hv =>
    have hcount : ('-' :: '-' :: (v ++ ['\n'])).count '\n' = 1 := by
      simp [List.count_append, List.count_eq_zero_of_not_mem hv]
    rw [hcount]
    refine ⟨t.keep '\n', hbreak, fun cs => ?_⟩
    have hopens : opensLineComment r ('-' :: (('-' :: v) ++ '\n' :: cs)) = true := by simp [opensLineComment]
    simpa using run_line_at_seam hopens (by simp [hv])
  | @number v hr hv =>
    have hcount : ('#' :: (v ++ ['\n'])).count '\n' = 1 := by
      simp [List.count_append, List.count_eq_zero_of_not_mem hv]
    rw [hcount]
    refine ⟨t.keep '\n', hbreak, fun cs => ?_⟩
    have hopens : opensLineComment r ('#' :: (v ++ '\n' :: cs)) = true := by simp [opensLineComment, hr]
    simpa using run_line_at_seam hopens hv

/-- **Scripts side by side.**  A script that is empty or ends a statement, a comment or nothing, and any script are
    split into the statements of the first and those of the last, with the lines of these moved down. -/
theorem split_append {gap : String} (ha : a = "" ∨ EndsStatement dialect a)
    (hgap : gap = "" ∨ Comment (Rules.ofDialect dialect) gap.toList) (b : String) :
    split dialect (a ++ gap ++ b) =
      split dialect a ++ (split dialect b).map (Fragment.shift (lineBreaks (a ++ gap))) := by
  have hseam : (stateAfter dialect a).mode = .plain ∧
      Follows (lineBreaks a) (split dialect a).reverse initial (stateAfter dialect a) := by
    rcases ha with rfl | ha
    · exact follows_empty
    · exact follows_of_endsStatement ha
  obtain ⟨hmode, hfollows⟩ := hseam
  -- the state behind the comment
  have hbehind : ∃ u, Follows (lineBreaks (a ++ gap)) (split dialect a).reverse initial u ∧ ∀ cs,
      run (Rules.ofDialect dialect) ((stateAfter dialect a).enter .plain) (gap.toList ++ cs) =
        run (Rules.ofDialect dialect) (u.enter .plain) cs := by
    have hbreaks : lineBreaks (a ++ gap) = lineBreaks a + gap.toList.count '\n' := by
      simp [lineBreaks, List.count_append]
    rw [hbreaks]
    rcases hgap with rfl | hgap
    · exact ⟨stateAfter dialect a, hfollows, fun cs => rfl⟩
    · exact run_comment_at_seam hgap hfollows
  obtain ⟨u, hu, hrun⟩ := hbehind
  have henter : (stateAfter dialect a).enter .plain = stateAfter dialect a := by
    unfold enter
    rw [← hmode]
  have hscript : (a ++ gap ++ b).toList = a.toList ++ (gap.toList ++ b.toList) := by simp
  calc split dialect (a ++ gap ++ b)
      = run (Rules.ofDialect dialect) (stateAfter dialect a) (gap.toList ++ b.toList) := by
        rw [split_eq_finish, stateAfter, hscript, List.foldl_append]; rfl
    _ = run (Rules.ofDialect dialect) (u.enter .plain) b.toList := by rw [← hrun, henter]
    _ = (split dialect a).reverse.reverse ++
          (run (Rules.ofDialect dialect) (initial.enter .plain) b.toList).map (Fragment.shift _) :=
        run_follows hu rfl b.toList
    _ = _ := by rw [List.reverse_reverse]; rfl

end DumpSummary.Script
