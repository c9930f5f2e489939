import DumpSummary.Proofs.Script.Lines
import DumpSummary.Proofs.Script.Seam

/-!
# Blanks at the end of a script

A statement that is not ended by a semicolon ends with the script.  Blanks behind it are stripped from its text, as the
blanks before it are, and its first line is that of its first character.  Its last line, though, is the line that the
splitter is on at the end of the script, so it counts every line break among the blanks behind it.  Nothing else in the
list of statements depends on blanks at the end.

## Contents

* `strip_append_of_blank`, `start_keepAll_of_blank`: blanks behind a statement;
* `step_blank`, `settle_foldl_step_blanks`: blanks outside every run;
* `EndsWithin`: a script that ends within a statement; `not_endsWithin_of_endsStatement`;
* `split_append_blanks_eq`: what is found in a script with blanks at its end;
* `split_append_blanks`: **blanks at the end of a script.**
-/

namespace DumpSummary.Script

open Scan

variable {r : Rules} {dialect : Option String} {content w : String}

/-! ## Blanks behind a statement -/

/-- The blanks behind a text are stripped. -/
theorem strip_append_of_blank (u : List Char) {b : List Char} (hb : ∀ c ∈ b, Text.isBlank c = true) :
    Text.strip (u ++ b) = Text.strip u := by
  by_cases hu : (Text.stripLeft u).isEmpty = true
  · -- all of the text is blank, too
    have hall : ∀ c ∈ u, Text.isBlank c = true := List.dropWhile_eq_nil_iff.mp (List.isEmpty_iff.mp hu)
    rw [strip_of_blank hall, strip_of_blank (List.forall_mem_append.mpr ⟨hall, hb⟩)]
  · have hleft : Text.stripLeft (u ++ b) = Text.stripLeft u ++ b := by
      unfold Text.stripLeft at hu ⊢
      rw [List.dropWhile_append, if_neg hu]
    unfold Text.strip Text.stripRight
    rw [hleft, List.reverse_append, List.dropWhile_append_of_pos fun c hc => hb c (List.mem_reverse.mp hc)]

/-- Nothing is left of a text exactly if it is blank. -/
theorem isEmpty_strip_iff {u : List Char} : (Text.strip u).isEmpty = true ↔ ∀ c ∈ u, Text.isBlank c = true := by
  constructor
  · intro h
    have hhead := head?_strip u
    rw [List.isEmpty_iff.mp h] at hhead
    simpa using hhead.symm
  · intro h
    rw [strip_of_blank h]
    rfl

namespace Scan

variable {s : Scan} {c : Char}

/-- Blanks do not begin a statement. -/
theorem start_keepAll_of_blank {b : List Char} (hb : ∀ c ∈ b, Text.isBlank c = true) : (s.keepAll b).start = s.start := by
  induction b generalizing s with
  | nil => rfl
  | cons c b ih =>
    have hc : Text.isBlank c = true := hb c List.mem_cons_self
    show ((s.keep c).keepAll b).start = s.start
    rw [ih fun d hd => hb d (List.mem_cons_of_mem c hd)]
    show (if s.start.isNone && !Text.isBlank c then some s.line else s.start) = s.start
    rw [hc]
    simp

/-- **The end of a statement** with blanks behind it: its last line is that of the last blank. -/
theorem ended_endStatement_blanks {b : List Char} (hb : ∀ c ∈ b, Text.isBlank c = true) :
    (s.keepAll b).endStatement.ended =
      if (Text.strip s.kept.reverse).isEmpty then s.ended
      else ⟨String.ofList (Text.strip s.kept.reverse), s.start.getD 1, s.line + b.count '\n'⟩ :: s.ended := by
  have htext : Text.strip (s.keepAll b).kept.reverse = Text.strip s.kept.reverse := by
    rw [kept_keepAll, List.reverse_append, List.reverse_reverse, strip_append_of_blank _ hb]
  unfold endStatement
  rw [htext, start_keepAll_of_blank hb, line_keepAll, ended_keepAll]

/-! ## Blanks outside every run -/

/-- A blank outside every run is kept, and it opens nothing. -/
theorem step_blank (hm : s.mode.isOutside = true) (hc : Text.isBlank c = true) :
    ∃ n : Mode, n.isOutside = true ∧ n.pending = [] ∧ s.step r c = (s.settle.keep c).enter n := by
  have hplain : ∀ u : Scan, u.stepPlain r c = (u.keep c).enter .plain := fun u =>
    stepPlain_of_isPlain (isPlain_of_class (by decide) hc)
  have hne : ∀ d, Text.isBlank d = false → c ≠ d := by
    rintro d hd rfl
    rw [hd] at hc
    cases hc
  unfold step settle
  cases hmode : s.mode with
  | plain => exact ⟨.plain, rfl, rfl, hplain s⟩
  | hyphen => exact ⟨.plain, rfl, rfl, (if_neg (hne '-' rfl)).trans (hplain (s.keep '-'))⟩
  | slash => exact ⟨.plain, rfl, rfl, (if_neg (hne '*' rfl)).trans (hplain (s.keep '/'))⟩
  | tag word =>
    dsimp only
    rw [if_neg (hne '$' rfl)]
    split
    · exact ⟨.tag (c :: word), rfl, rfl, rfl⟩
    · exact ⟨.plain, rfl, rfl, hplain s⟩
  | _ =>
    rw [hmode] at hm
    cases hm

/-- **Blanks outside every run** are kept behind what is pending. -/
theorem settle_foldl_step_blanks (hm : s.mode.isOutside = true) {b : List Char} (hb : ∀ c ∈ b, Text.isBlank c = true) :
    ∃ n, (b.foldl (step r) s).settle = (s.settle.keepAll b).enter n := by
  induction b generalizing s with
  | nil => exact ⟨s.settle.mode, rfl⟩
  | cons c b ih =>
    obtain ⟨n, hn, hpending, hstep⟩ := step_blank (r := r) hm (hb c List.mem_cons_self)
    obtain ⟨n', hrest⟩ := ih (s := s.step r c) (by rw [hstep]; exact hn) fun d hd => hb d (List.mem_cons_of_mem c hd)
    have hsettle : (s.step r c).settle = (s.settle.keep c).enter n := by
      rw [hstep]
      unfold settle
      show keepAll _ n.pending = _
      rw [hpending]
      rfl
    refine ⟨n', ?_⟩
    rw [List.foldl_cons, hrest, hsettle, keepAll_enter]
    rfl

end Scan

/-! ## The end of a script -/

/-- The script ends within a statement: something that is not blank is kept of it behind its last semicolon. -/
def EndsWithin (dialect : Option String) (script : String) : Prop :=
  ∃ c ∈ (stateAfter dialect script).settle.kept, Text.isBlank c = false

instance (dialect : Option String) (script : String) : Decidable (EndsWithin dialect script) :=
  inferInstanceAs (Decidable (∃ c ∈ _, _))

theorem isEmpty_strip_settle : (Text.strip (stateAfter dialect content).settle.kept.reverse).isEmpty = true ↔
    ¬ EndsWithin dialect content := by
  rw [isEmpty_strip_iff]
  unfold EndsWithin
  simp

/-- A script that ends a statement with a semicolon does not end within one. -/
theorem not_endsWithin_of_endsStatement (h : EndsStatement dialect content) : ¬ EndsWithin dialect content := by
  obtain ⟨hmode, hfollows⟩ := follows_of_endsStatement h
  obtain ⟨gap, hgap, hkept⟩ := hfollows.kept
  have hsettle : (stateAfter dialect content).settle = stateAfter dialect content := by
    unfold settle
    rw [hmode]
    rfl
  rintro ⟨c, hc, hblank⟩
  rw [hsettle, hkept] at hc
  have hc' : c ∈ gap := hc
  rw [hgap c hc'] at hblank
  cases hblank

/-- The fragment with its last line that many lines further down. -/
def Fragment.stretch (k : Nat) (f : Fragment) : Fragment := ⟨f.text, ⟨f.lines.first, f.lines.last + k⟩⟩

/-- The statement that a script ends within, as it is found without blanks behind it. -/
def lastFragment (s : Scan) : Fragment := ⟨String.ofList (Text.strip s.kept.reverse), ⟨s.start.getD 1, s.line⟩⟩

/-- **What is found in a script** with blanks at its end: the statements that have ended, and the one that the script
ends within. -/
theorem split_append_blanks_eq (hm : (stateAfter dialect content).mode.isOutside = true)
    (hw : ∀ c ∈ w.toList, Text.isBlank c = true) :
    split dialect (content ++ w) =
      if EndsWithin dialect content then
        (stateAfter dialect content).settle.ended.reverse ++
          [(lastFragment (stateAfter dialect content).settle).stretch (lineBreaks w)]
      else (stateAfter dialect content).settle.ended.reverse := by
  obtain ⟨n, hn⟩ := settle_foldl_step_blanks (r := Rules.ofDialect dialect) hm hw
  have hstate : stateAfter dialect (content ++ w) =
      w.toList.foldl (step (Rules.ofDialect dialect)) (stateAfter dialect content) := by
    unfold stateAfter
    rw [String.toList_append, List.foldl_append]
  rw [split_eq_finish, finish_eq, hstate, hn]
  show ((stateAfter dialect content).settle.keepAll w.toList).endStatement.ended.reverse = _
  rw [ended_endStatement_blanks hw]
  by_cases hends : EndsWithin dialect content
  · rw [if_pos hends, if_neg (mt isEmpty_strip_settle.mp (not_not_intro hends)), List.reverse_cons]
    rfl
  · rw [if_neg hends, if_pos (isEmpty_strip_settle.mpr hends)]

/-- **Blanks at the end of a script** that ends outside every run.  They leave every text and every first line as it is.
If the script does not end within a statement, nothing changes at all.  If it does, that statement is the last one, and
its last line moves down by the line breaks among the blanks; so the statements are the same exactly if there is no line
break among the blanks or no statement for them to stand behind. -/
theorem split_append_blanks (hm : (stateAfter dialect content).mode.isOutside = true)
    (hw : ∀ c ∈ w.toList, Text.isBlank c = true) :
    ((split dialect (content ++ w)).map fun f => (f.text, f.lines.first)) =
      ((split dialect content).map fun f => (f.text, f.lines.first)) ∧
    (¬ EndsWithin dialect content → split dialect (content ++ w) = split dialect content) ∧
    (EndsWithin dialect content → ∃ before last, split dialect content = before ++ [last] ∧
      split dialect (content ++ w) = before ++ [last.stretch (lineBreaks w)]) ∧
    (split dialect (content ++ w) = split dialect content ↔ lineBreaks w = 0 ∨ ¬ EndsWithin dialect content) := by
  have hbare : content = content ++ "" := String.append_empty.symm
  have hsplit : split dialect content = _ := (congrArg (split dialect) hbare).trans
    (split_append_blanks_eq (w := "") hm (by simp))
  rw [split_append_blanks_eq hm hw, hsplit]
  by_cases hends : EndsWithin dialect content
  · simp only [if_pos hends]
    refine ⟨by simp [Fragment.stretch], fun h => absurd hends h, fun _ => ⟨_, _, rfl, ?_⟩, ?_⟩
    · simp [Fragment.stretch, lineBreaks]
    · simp [Fragment.stretch, lineBreaks, hends, lastFragment]
  · -- both are the statements that have ended
    simp [hends]

/-- A slash that is pending and a statement behind a semicolon, with two line breaks and a tab behind it. -/
theorem split_append_blanks_slash :
    (stateAfter (some "postgres") "USE a;\nSELECT 1 /").mode.isOutside = true ∧
      (∀ c ∈ "\n\t\n".toList, Text.isBlank c = true) ∧
      split (some "postgres") "USE a;\nSELECT 1 /" = [⟨"USE a", ⟨1, 1⟩⟩, ⟨"SELECT 1 /", ⟨2, 2⟩⟩] ∧
      split (some "postgres") ("USE a;\nSELECT 1 /" ++ "\n\t\n") = [⟨"USE a", ⟨1, 1⟩⟩, ⟨"SELECT 1 /", ⟨2, 4⟩⟩] := by
  have hm : (stateAfter (some "postgres") "USE a;\nSELECT 1 /").mode.isOutside = true := by decide
  have hw : ∀ c ∈ "\n\t\n".toList, Text.isBlank c = true := List.all_eq_true.mp (by decide)
  have hends : EndsWithin (some "postgres") "USE a;\nSELECT 1 /" := ⟨'/', by decide, by decide⟩
  obtain ⟨before, last, hsplit, hblanks⟩ := (split_append_blanks hm hw).2.2.1 hends
  have hfound : split (some "postgres") "USE a;\nSELECT 1 /" = [⟨"USE a", ⟨1, 1⟩⟩] ++ [⟨"SELECT 1 /", ⟨2, 2⟩⟩] := by
    decide
  obtain ⟨rfl, hlast⟩ := List.append_inj' (hfound.symm.trans hsplit) rfl
  obtain rfl := List.cons.inj hlast |>.1
  exact ⟨hm, hw, hfound, hblanks.trans (by decide)⟩

/-- A line break behind a statement without a semicolon is counted with it. -/
theorem split_append_lineBreak :
    (stateAfter (some "postgres") "USE b").mode.isOutside = true ∧ Text.isBlank '\n' = true ∧
      split (some "postgres") "USE b" = [⟨"USE b", ⟨1, 1⟩⟩] ∧
      split (some "postgres") ("USE b" ++ "\n") = [⟨"USE b", ⟨1, 2⟩⟩] := by decide

end DumpSummary.Script
