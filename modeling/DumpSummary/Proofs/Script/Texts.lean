import DumpSummary.Proofs.Script.Run

/-!
# The texts of the statements

What the splitter keeps of a statement, lexeme by lexeme, is what the lexemes between two semicolons leave of it.
The splitter does not look at what it kept to see whether a statement has begun; it looks at the line it noted for
its first character.  `Scan.Noted` says that the two agree, and it holds in every state the splitter reaches.

## Contents

* `Scan.Noted`: the invariant, and `noted_absorb`;
* `kept_absorb`, `ended_absorb`: what a lexeme other than a semicolon does to the statement;
* `map_text_endStatement`: what a semicolon does to the statements;
* `Rules.ofDialect_eq`: which dialect has which rule;
* `map_text_split`: the texts are those of the lexemes.
-/

namespace DumpSummary.Script
namespace Scan

variable {s : Scan}

/-- A line is noted for the statement exactly if something that is not blank is kept of it. -/
def Noted (s : Scan) : Prop := s.start.isSome = s.kept.any (!Text.isBlank ·)

/-! ## Single characters and runs of them -/

theorem noted_keep (h : s.Noted) (c : Char) : (s.keep c).Noted := by
  unfold Noted at h ⊢
  show (if s.start.isNone && !Text.isBlank c then some s.line else s.start).isSome =
    (!Text.isBlank c || s.kept.any (!Text.isBlank ·))
  rw [← h]
  cases s.start <;> cases Text.isBlank c <;> rfl

theorem noted_keepAll (h : s.Noted) (w : List Char) : (s.keepAll w).Noted := by
  induction w generalizing s with
  | nil => exact h
  | cons c w ih => exact ih (noted_keep h c)

theorem kept_keepAll (w : List Char) : (s.keepAll w).kept = w.reverse ++ s.kept := by
  induction w generalizing s with
  | nil => rfl
  | cons c w ih =>
    show ((s.keep c).keepAll w).kept = _
    rw [ih, List.reverse_cons, List.append_assoc]
    rfl

theorem ended_keepAll (w : List Char) : (s.keepAll w).ended = s.ended := by
  induction w generalizing s with
  | nil => rfl
  | cons c w ih => exact ih (s := s.keep c)

/-- What is passed over in a comment only moves the line. -/
theorem skipAll_eq (w : List Char) : ∃ line, s.skipAll w = { s with line := line } := by
  induction w generalizing s with
  | nil => exact ⟨s.line, rfl⟩
  | cons c w ih =>
    obtain ⟨line, hline⟩ := ih (s := s.skip c)
    exact ⟨line, hline⟩

theorem noted_leaveSpace (h : s.Noted) : s.leaveSpace.Noted := by
  unfold leaveSpace
  by_cases hs : s.start.isSome = true
  · rw [if_pos hs]
    unfold Noted at h ⊢
    have hb : Text.isBlank ' ' = true := by decide
    simpa [hb] using h
  · rw [if_neg hs]
    exact h

theorem kept_leaveSpace (h : s.Noted) :
    s.leaveSpace.kept.reverse =
      if s.kept.reverse.any (!Text.isBlank ·) then s.kept.reverse ++ [' '] else s.kept.reverse := by
  unfold leaveSpace
  rw [List.any_reverse, ← h]
  by_cases hs : s.start.isSome = true
  · rw [if_pos hs, if_pos hs]
    exact List.reverse_cons
  · rw [if_neg hs, if_neg hs]

theorem ended_leaveSpace : s.leaveSpace.ended = s.ended := by
  unfold leaveSpace
  split <;> rfl

/-! ## Lexemes -/

theorem noted_endStatement : s.endStatement.Noted := rfl

/-- Whatever lexeme is absorbed, the line stays noted. -/
theorem noted_absorb (h : s.Noted) (l : Lexeme) : (s.absorb l).Noted := by
  cases l with
  | lineComment w => exact h
  | blockComment w =>
    obtain ⟨line, hline⟩ := skipAll_eq (s := s.leaveSpace) w
    show (s.leaveSpace.skipAll w).Noted
    rw [hline]
    exact noted_leaveSpace h
  | semicolon => exact noted_endStatement
  | quoted w => exact noted_keepAll h w
  | body w => exact noted_keepAll h w
  | single c => exact noted_keep h c

/-- A lexeme other than a semicolon adds to the statement what the statement keeps of it. -/
theorem kept_absorb (h : s.Noted) {l : Lexeme} (hl : l ≠ .semicolon) :
    (s.absorb l).kept.reverse = keepLexeme s.kept.reverse l := by
  have hall : ∀ w, (s.keepAll w).kept.reverse = s.kept.reverse ++ w := by
    intro w
    rw [kept_keepAll, List.reverse_append, List.reverse_reverse]
  cases l with
  | lineComment w => rfl
  | blockComment w =>
    obtain ⟨line, hline⟩ := skipAll_eq (s := s.leaveSpace) w
    show (s.leaveSpace.skipAll w).kept.reverse = _
    rw [hline]
    exact kept_leaveSpace h
  | semicolon => exact absurd rfl hl
  | quoted w => exact hall w
  | body w => exact hall w
  | single c => exact hall [c]

/-- A lexeme other than a semicolon ends no statement. -/
theorem ended_absorb {l : Lexeme} (hl : l ≠ .semicolon) : (s.absorb l).ended = s.ended := by
  cases l with
  | lineComment w => rfl
  | blockComment w =>
    obtain ⟨line, hline⟩ := skipAll_eq (s := s.leaveSpace) w
    show (s.leaveSpace.skipAll w).ended = _
    rw [hline]
    exact ended_leaveSpace
  | semicolon => exact absurd rfl hl
  | quoted w => exact ended_keepAll w
  | body w => exact ended_keepAll w
  | single c => rfl

/-- The end of a statement adds its text to the texts, unless nothing is left of it. -/
theorem map_text_endStatement :
    s.endStatement.ended.reverse.map Fragment.text =
      s.ended.reverse.map Fragment.text ++
        ([Text.strip s.kept.reverse].filter (!·.isEmpty)).map String.ofList := by
  by_cases h : (Text.strip s.kept.reverse).isEmpty = true
  · simp [endStatement, h]
  · simp [endStatement, h]

/-! ## Statements -/

/-- The texts of groups of lexemes, of the first of which `kept` is kept already. -/
def groupTexts (kept : List Char) : List (List Lexeme) → List (List Char)
  | [] => []
  | ls :: lss =>
    (Text.strip (ls.foldl keepLexeme kept) :: lss.map fun ls => Text.strip (keptText ls)).filter (!·.isEmpty)

theorem groupTexts_nil_left (lss : List (List Lexeme)) :
    groupTexts [] lss = (lss.map fun ls => Text.strip (keptText ls)).filter (!·.isEmpty) := by
  cases lss <;> rfl

theorem groupTexts_cons (kept : List Char) (ls : List Lexeme) (lss : List (List Lexeme)) :
    groupTexts kept (ls :: lss) =
      [Text.strip (ls.foldl keepLexeme kept)].filter (!·.isEmpty) ++ groupTexts [] lss := by
  rw [groupTexts_nil_left, ← List.filter_append]
  rfl

/-- A lexeme in front of the first group is kept before it. -/
theorem groupTexts_modifyHead (kept : List Char) (l : Lexeme) {lss : List (List Lexeme)} (h : lss ≠ []) :
    groupTexts kept (lss.modifyHead (l :: ·)) = groupTexts (keepLexeme kept l) lss := by
  cases lss with
  | nil => exact absurd rfl h
  | cons ls lss => rfl

/-- **A run.**  After the lexemes of a text and the end of the last statement, the texts are those of the groups of
    lexemes between the semicolons. -/
theorem map_text_foldl_absorb (h : s.Noted) (ls : List Lexeme) :
    (ls.foldl absorb s).endStatement.ended.reverse.map Fragment.text =
      s.ended.reverse.map Fragment.text ++
        (groupTexts s.kept.reverse (ls.splitOnP (· == .semicolon))).map String.ofList := by
  induction ls generalizing s with
  | nil =>
    rw [List.splitOnP_nil, groupTexts_cons]
    show s.endStatement.ended.reverse.map Fragment.text = _
    rw [map_text_endStatement, groupTexts, List.append_nil, List.foldl_nil]
  | cons l ls ih =>
    rw [List.foldl_cons, ih (noted_absorb h l), List.splitOnP_cons_eq_if_modifyHead]
    by_cases hl : l = .semicolon
    · -- a semicolon: the statement ends and an empty one begins
      subst hl
      rw [if_pos (by rfl), groupTexts_cons, List.map_append, ← List.append_assoc]
      exact congrArg (· ++ _) map_text_endStatement
    · rw [if_neg (by simpa using hl), groupTexts_modifyHead _ _ (List.splitOnP_ne_nil _ _), kept_absorb h hl,
        ended_absorb hl]

end Scan

/-- **The rules of a dialect.**  MySQL has comments behind number signs and escapes behind backslashes, PostgreSQL has
bodies between dollar tags, and no other dialect has any of them. -/
theorem Rules.ofDialect_eq (dialect : Option String) : Rules.ofDialect dialect = {
    hashComments := decide (dialect = some "mysql")
    backslashEscapes := decide (dialect = some "mysql")
    dollarBodies := decide (dialect = some "postgres") } := by
  have hname : ∀ name, (dialect == some name) = decide (dialect = some name) := by
    intro name
    by_cases h : dialect = some name <;> simp [h]
  unfold Rules.ofDialect
  rw [hname, hname]

/-- **The texts of the statements.**  In every dialect, the texts that the splitter finds in a script are those of the
lexemes between its semicolons, under the rules of MySQL, of PostgreSQL, or of all other dialects. -/
theorem map_text_split (dialect : Option String) (script : String) :
    (split dialect script).map Fragment.text =
      (statementTexts {
        hashComments := decide (dialect = some "mysql")
        backslashEscapes := decide (dialect = some "mysql")
        dollarBodies := decide (dialect = some "postgres") } script.toList).map String.ofList := by
  rw [← Rules.ofDialect_eq]
  show (Scan.run (Rules.ofDialect dialect) (Scan.initial.enter .plain) script.toList).map Fragment.text = _
  -- from characters to lexemes, and from lexemes to groups of them
  rw [Scan.run_eq_foldl_absorb]
  show (((lexemes (Rules.ofDialect dialect) script.toList).foldl Scan.absorb
    Scan.initial).endStatement.ended.reverse).map Fragment.text = _
  rw [Scan.map_text_foldl_absorb (s := Scan.initial) rfl, statementTexts, ← Scan.groupTexts_nil_left]
  rfl

end DumpSummary.Script
