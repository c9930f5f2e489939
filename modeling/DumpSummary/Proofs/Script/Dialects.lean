import DumpSummary.Script.Split

/-!
# Splitting under different dialects

Each of the three rules of a dialect is asked for at one character only, and at every such character it is asked for
whatever run the splitter is in: number signs, backslashes and dollar signs.  So two sets of rules that say the same of
a character have the same effect at it on every state, and the run over a text is the same under both if they say the
same of all its characters.  No state has to be compared with another one: the two runs never part.

## Contents

* `Rules.Agree`: rules that say the same of a character; `Rules.agree_of_plain`, `Rules.ofDialect_of_ordinary`;
* `step_congr`, `foldl_step_congr`: one character, a whole text;
* `split_congr`: scripts of whose characters two dialects say the same;
* `split_any_dialect`: **where the dialect does not matter.**
-/

namespace DumpSummary.Script

variable {r r' : Rules} {c : Char} {cs : List Char} {dialect dialect' : Option String} {script : String}

/-! ## Rules that say the same -/

/-- Two sets of rules say the same of a character: they agree in the rule that is asked for at it, if there is one. -/
structure Rules.Agree (r r' : Rules) (c : Char) : Prop where
  /-- At a number sign, the rule of comments. -/
  number : c = '#' → r.hashComments = r'.hashComments
  /-- At a backslash, the rule of escapes. -/
  backslash : c = '\\' → r.backslashEscapes = r'.backslashEscapes
  /-- At a dollar sign, the rule of bodies. -/
  dollar : c = '$' → r.dollarBodies = r'.dollarBodies

/-- There is no rule for other characters. -/
theorem Rules.agree_of_plain (r r' : Rules) (hnumber : c ≠ '#') (hbackslash : c ≠ '\\') (hdollar : c ≠ '$') :
    r.Agree r' c :=
  ⟨fun h => absurd h hnumber, fun h => absurd h hbackslash, fun h => absurd h hdollar⟩

theorem Rules.Agree.refl (r : Rules) (c : Char) : r.Agree r c := ⟨fun _ => rfl, fun _ => rfl, fun _ => rfl⟩

/-- Only two dialects have rules of their own. -/
theorem Rules.ofDialect_of_ordinary (hmysql : dialect ≠ some "mysql") (hpostgres : dialect ≠ some "postgres") :
    Rules.ofDialect dialect = ⟨false, false, false⟩ := by
  unfold Rules.ofDialect
  rw [beq_eq_false_iff_ne.mpr hmysql, beq_eq_false_iff_ne.mpr hpostgres]

/-! ## Two runs -/

namespace Scan

/-- Outside every run, number signs and dollar signs are asked about. -/
theorem stepPlain_congr (h : r.Agree r' c) (s : Scan) : s.stepPlain r c = s.stepPlain r' c := by
  have hnumber : (c = '#' ∧ r.hashComments = true) ↔ (c = '#' ∧ r'.hashComments = true) :=
    and_congr_right fun hc => by rw [h.number hc]
  have hdollar : (c = '$' ∧ r.dollarBodies = true) ↔ (c = '$' ∧ r'.dollarBodies = true) :=
    and_congr_right fun hc => by rw [h.dollar hc]
  unfold stepPlain
  simp only [hnumber, hdollar]

/-- **One character** of which the rules say the same has the same effect, whatever run it stands in. -/
theorem step_congr (h : r.Agree r' c) (s : Scan) : s.step r c = s.step r' c := by
  have hplain : ∀ t : Scan, t.stepPlain r c = t.stepPlain r' c := stepPlain_congr h
  unfold step
  cases s.mode with
  | plain => exact hplain s
  | hyphen =>
    dsimp only
    rw [hplain]
  | slash =>
    dsimp only
    rw [hplain]
  | quoted q =>
    -- a backslash is asked about only in a run that a single quote opened
    have hescape : (c = '\\' ∧ q = '\x27' ∧ r.backslashEscapes = true) ↔
        (c = '\\' ∧ q = '\x27' ∧ r'.backslashEscapes = true) :=
      and_congr_right fun hc => by rw [h.backslash hc]
    simp only [hescape]
  | tag word =>
    dsimp only
    rw [hplain]
  | escaped q => rfl
  | lineComment => rfl
  | blockComment star => rfl
  | body tag read => rfl

/-- **A whole text** of whose characters the rules say the same leads to the same state. -/
theorem foldl_step_congr (h : ∀ c ∈ cs, r.Agree r' c) (s : Scan) : cs.foldl (step r) s = cs.foldl (step r') s := by
  induction cs generalizing s with
  | nil => rfl
  | cons c cs ih =>
    rw [List.foldl_cons, List.foldl_cons, step_congr (h c List.mem_cons_self),
      ih fun d hd => h d (List.mem_cons_of_mem c hd)]

end Scan

/-! ## Two dialects -/

/-- A script of whose characters two dialects say the same has the same statements, with the same lines, in both. -/
theorem split_congr (h : ∀ c ∈ script.toList, (Rules.ofDialect dialect).Agree (Rules.ofDialect dialect') c) :
    split dialect script = split dialect' script := by
  unfold split
  rw [Scan.foldl_step_congr h]

/-- **Where the dialect does not matter.**  A script without number signs, backslashes and dollar signs has the same
statements, with the same lines, in every two dialects; and every script has in every two of those dialects that have no
rules of their own, among which are the unknown ones and none at all. -/
theorem split_any_dialect (dialect dialect' : Option String) (script : String) :
    (('#' ∉ script.toList ∧ '\\' ∉ script.toList ∧ '$' ∉ script.toList) →
      split dialect script = split dialect' script) ∧
    ((dialect ≠ some "mysql" ∧ dialect ≠ some "postgres") → (dialect' ≠ some "mysql" ∧ dialect' ≠ some "postgres") →
      split dialect script = split dialect' script) := by
  constructor
  · rintro ⟨hnumber, hbackslash, hdollar⟩
    refine split_congr fun c hc => Rules.agree_of_plain _ _ ?_ ?_ ?_
    · exact fun he => hnumber (he ▸ hc)
    · exact fun he => hbackslash (he ▸ hc)
    · exact fun he => hdollar (he ▸ hc)
  · rintro ⟨hmysql, hpostgres⟩ ⟨hmysql', hpostgres'⟩
    refine split_congr fun c _ => ?_
    rw [Rules.ofDialect_of_ordinary hmysql hpostgres, Rules.ofDialect_of_ordinary hmysql' hpostgres']
    exact Rules.Agree.refl _ c

/-- Quotes, both kinds of comments and a semicolon in a string, read by the two dialects with rules of their own; and
what those rules are about, read by two others. -/
theorem split_any_dialect_quotes :
    let plain := "/* a;\n*/ USE `b`; -- c;\nINSERT INTO t VALUES ('d;\n''', \"e\")"
    let signs := "SELECT '\\' # ';\n', $$;$$"
    ('#' ∉ plain.toList ∧ '\\' ∉ plain.toList ∧ '$' ∉ plain.toList) ∧
      split (some "mysql") plain = split (some "postgres") plain ∧
      split (some "postgres") plain = [⟨"USE `b`", ⟨2, 2⟩⟩, ⟨"INSERT INTO t VALUES ('d;\n''', \"e\")", ⟨3, 4⟩⟩] ∧
      split (some "tsql") signs = split none signs ∧
      split none signs = [⟨"SELECT '\\' # ';\n', $$", ⟨1, 2⟩⟩, ⟨"$$", ⟨2, 2⟩⟩] := by
  intro plain signs
  have hplain : '#' ∉ plain.toList ∧ '\\' ∉ plain.toList ∧ '$' ∉ plain.toList := by decide
  have hsame := (split_any_dialect (some "mysql") (some "postgres") plain).1 hplain
  have hordinary := (split_any_dialect (some "tsql") none signs).2 (by decide) (by decide)
  exact ⟨hplain, hsame, by decide +kernel, hordinary, by decide⟩

/-- Each of the three signs makes a difference. -/
example : split (some "mysql") "a # b" ≠ split none "a # b" ∧ split (some "mysql") "'\\';b" ≠ split none "'\\';b" ∧
    split (some "postgres") "$$a;b$$" ≠ split none "$$a;b$$" := by decide

end DumpSummary.Script
