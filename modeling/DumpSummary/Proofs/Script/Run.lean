import DumpSummary.Proofs.Script.Lexeme

/-!
# The splitter reads lexeme by lexeme

The splitter takes one character at a time and remembers the kind of run it is in.  Here its run over a text is
taken apart into the lexemes of that text: from a state outside every run, the first lexeme is absorbed whole and the
run goes on with the rest.  One lemma for each kind of run says where the splitter leaves it.

## Contents

* `Scan.run`: the statements from a state on;
* `Scan.absorb`: a whole lexeme at once;
* `run_quoted`, `run_lineComment`, `run_blockComment`, `run_body`, `run_tag_none`, `run_tag_some`: where a run is left;
* `isPlain`, `stepPlain_of_isPlain`: characters that open and end nothing;
* `run_cons`, `run_eq_foldl_absorb`: one lexeme, **all lexemes**.
-/

namespace DumpSummary.Script
namespace Scan

/-- The statements that the splitter finds from a state on. -/
def run (r : Rules) (s : Scan) (cs : List Char) : List Fragment := (cs.foldl (step r) s).finish

/-- Keeps a whole text. -/
def keepAll (s : Scan) (w : List Char) : Scan := w.foldl keep s

/-- Passes over a whole text inside a comment. -/
def skipAll (s : Scan) (w : List Char) : Scan := w.foldl skip s

/-- Takes a whole lexeme. -/
def absorb (s : Scan) : Lexeme → Scan
  | .lineComment _ => s
  | .blockComment w => s.leaveSpace.skipAll w
  | .semicolon => s.endStatement
  | l => s.keepAll l.source

/-! ## Modes -/

variable {r : Rules} {s : Scan} {c q : Char} {cs : List Char}

theorem leaveSpace_enter (m : Mode) : (s.enter m).leaveSpace = s.leaveSpace.enter m := by
  unfold leaveSpace
  show (if s.start.isSome then _ else _) = _
  split <;> rfl

/-! ## Where a run is left -/

theorem step_quoted_escape (he : c = '\\' ∧ q = '\x27' ∧ r.backslashEscapes = true) :
    (s.enter (.quoted q)).step r c = (s.keep c).enter (.escaped q) := if_pos he

theorem step_quoted_close (he : ¬ (c = '\\' ∧ q = '\x27' ∧ r.backslashEscapes = true)) (hq : c = q) :
    (s.enter (.quoted q)).step r c = (s.keep c).enter .plain := (if_neg he).trans (if_pos hq)

theorem step_quoted_keep (he : ¬ (c = '\\' ∧ q = '\x27' ∧ r.backslashEscapes = true)) (hq : c ≠ q) :
    (s.enter (.quoted q)).step r c = (s.keep c).enter (.quoted q) := (if_neg he).trans (if_neg hq)

/-- A quoted run is left after its closing delimiter, or at the end of the text. -/
theorem run_quoted : run r (s.enter (.quoted q)) cs =
    run r ((s.keepAll (cutQuoted (q == '\x27' && r.backslashEscapes) q cs).1).enter .plain)
      (cutQuoted (q == '\x27' && r.backslashEscapes) q cs).2 := by
  have hesc : ∀ c, ((q == '\x27' && r.backslashEscapes) && c == '\\') = true ↔
      (c = '\\' ∧ q = '\x27' ∧ r.backslashEscapes = true) := by
    intro c
    simp [and_comm, and_assoc]
  fun_induction cutQuoted (q == '\x27' && r.backslashEscapes) q cs generalizing s with
  | case1 => rfl
  | case2 c =>
    -- whatever the last character does to the mode, the end of the text forgets it
    show run r ((s.enter (.quoted q)).step r c) [] = run r ((s.keep c).enter .plain) []
    by_cases he : c = '\\' ∧ q = '\x27' ∧ r.backslashEscapes = true
    · rw [step_quoted_escape he]
      rfl
    · by_cases hq : c = q
      · rw [step_quoted_close he hq]
      · rw [step_quoted_keep he hq]
        rfl
  | case3 c d cs h ih =>
    show run r (((s.enter (.quoted q)).step r c).step r d) cs = _
    rw [step_quoted_escape ((hesc c).mp h)]
    exact ih (s := (s.keep c).keep d)
  | case4 d cs h =>
    show run r ((s.enter (.quoted q)).step r q) (d :: cs) = _
    rw [step_quoted_close (fun he => h ((hesc q).mpr he)) rfl]
    rfl
  | case5 c d cs h hq ih =>
    show run r ((s.enter (.quoted q)).step r c) (d :: cs) = _
    rw [step_quoted_keep (fun he => h ((hesc c).mpr he)) hq]
    exact ih (s := s.keep c)

/-- A line comment is left before the end of its line. -/
theorem run_lineComment : run r (s.enter .lineComment) cs = run r (s.enter .plain) (cs.dropWhile (· ≠ '\n')) := by
  induction cs with
  | nil => rfl
  | cons c cs ih =>
    by_cases hc : c = '\n'
    · subst hc
      rfl
    · have hstep : (s.enter .lineComment).step r c = s.enter .lineComment := if_neg hc
      rw [List.dropWhile_cons_of_pos (by simpa using hc), ← ih]
      show run r ((s.enter .lineComment).step r c) cs = _
      rw [hstep]

/-- A block comment is left after the first star and slash, or at the end of the text.  Of what was read of it the
    splitter remembers whether it ends in a star. -/
theorem run_blockComment (read : List Char) : run r (s.enter (.blockComment (read.head? == some '*'))) cs =
    run r ((s.skipAll (cutBehind ['/', '*'] read cs).1).enter .plain) (cutBehind ['/', '*'] read cs).2 := by
  induction cs generalizing read s with
  | nil => rfl
  | cons c cs ih =>
    have hback : ['/', '*'].isPrefixOf (c :: read) = true ↔ c = '/' ∧ (read.head? == some '*') = true := by
      cases read with
      | nil => simp [List.isPrefixOf]
      | cons d read =>
        simp only [List.isPrefixOf, List.head?_cons, Bool.and_true, Bool.and_eq_true, beq_iff_eq, Option.some.injEq]
        exact ⟨fun hb => ⟨hb.1.symm, hb.2.symm⟩, fun hb => ⟨hb.1.symm, hb.2.symm⟩⟩
    show run r ((s.enter (.blockComment (read.head? == some '*'))).step r c) cs = _
    unfold cutBehind
    by_cases hc : c = '/' ∧ (read.head? == some '*') = true
    · have hstep : (s.enter (.blockComment (read.head? == some '*'))).step r c = s.enter .plain := if_pos hc
      rw [if_pos (hback.mpr hc), hstep, hc.1]
      rfl
    · have hstep : (s.enter (.blockComment (read.head? == some '*'))).step r c =
          (s.skip c).enter (.blockComment ((c :: read).head? == some '*')) := if_neg hc
      rw [if_neg (fun hb => hc (hback.mp hb)), hstep, ih]
      rfl

/-- A dollar-quoted body is left after the first place where its tag stands again, or at the end of the text. -/
theorem run_body (tag read : List Char) : run r (s.enter (.body tag read)) cs =
    run r ((s.keepAll (cutBehind tag read cs).1).enter .plain) (cutBehind tag read cs).2 := by
  induction cs generalizing read s with
  | nil => rfl
  | cons c cs ih =>
    show run r ((s.enter (.body tag read)).step r c) cs = _
    unfold cutBehind
    by_cases hc : tag.isPrefixOf (c :: read) = true
    · have hstep : (s.enter (.body tag read)).step r c = (s.keep c).enter .plain := if_pos hc
      rw [if_pos hc, hstep]
      rfl
    · have hstep : (s.enter (.body tag read)).step r c = (s.keep c).enter (.body tag (c :: read)) := if_neg hc
      rw [if_neg hc, hstep, ih]
      rfl

/-! ## Plain characters -/

/-- The characters that open or end something in some dialect. -/
def specials : List Char := ['-', '/', '\x27', '\x22', '\x60', ';', '#', '$']

/-- A character that opens nothing and ends nothing, whatever comes after it. -/
def isPlain (r : Rules) (c : Char) : Bool :=
  !specials.contains c || (c == '#' && !r.hashComments) || (c == '$' && !r.dollarBodies)

/-- A plain character is kept. -/
theorem stepPlain_of_isPlain (h : isPlain r c = true) : s.stepPlain r c = (s.keep c).enter .plain := by
  by_cases hh : c = '#'
  · subst hh
    have hr : r.hashComments = false := by simpa [isPlain, specials] using h
    simp [stepPlain, hr]
  by_cases hd : c = '$'
  · subst hd
    have hr : r.dollarBodies = false := by simpa [isPlain, specials] using h
    simp [stepPlain, hr]
  simp only [isPlain, specials, List.contains_cons, List.contains_nil, Bool.or_false, hh, hd, beq_eq_false_iff_ne.mpr,
    ne_eq, not_false_eq_true, Bool.false_and, Bool.not_eq_true', Bool.or_eq_false_iff] at h
  simp only [beq_eq_false_iff_ne, ne_eq] at h
  obtain ⟨hhyphen, hslash, hsingle, hdouble, hback, hsemi⟩ := h
  simp [stepPlain, hh, hd, hhyphen, hslash, hsingle, hdouble, hback, hsemi]

/-- The characters of a class are plain if no special character is of that class. -/
theorem isPlain_of_class {p : Char → Bool} (hp : specials.all (!p ·) = true) (h : p c = true) : isPlain r c = true := by
  have hc : c ∉ specials := by
    intro hmem
    simpa [h] using List.all_eq_true.mp hp c hmem
  simp [isPlain, hc]

/-! ## A dollar sign and what may be its tag -/

/-- A word character opens nothing and ends nothing. -/
theorem stepPlain_of_isWord (h : Text.isWord c = true) : s.stepPlain r c = (s.keep c).enter .plain :=
  stepPlain_of_isPlain (isPlain_of_class (by decide) h)

/-- Word characters after a dollar sign that turn out not to be a tag were plain text all along. -/
theorem run_tag_none {word : List Char} (h : ∀ rest, cs.dropWhile Text.isWord ≠ '$' :: rest) :
    run r (s.enter (.tag word)) cs = run r (s.enter .plain) cs := by
  induction cs generalizing s word with
  | nil => rfl
  | cons c cs ih =>
    show run r ((s.enter (.tag word)).step r c) cs = run r (s.stepPlain r c) cs
    by_cases hw : Text.isWord c = true
    · have hd : c ≠ '$' := fun he => by rw [he] at hw; exact absurd hw (by decide)
      have hstep : (s.enter (.tag word)).step r c = (s.keep c).enter (.tag (c :: word)) :=
        (if_neg hd).trans (if_pos hw)
      rw [List.dropWhile_cons_of_pos hw] at h
      rw [hstep, stepPlain_of_isWord hw]
      exact ih h
    · rw [List.dropWhile_cons_of_neg hw] at h
      have hd : c ≠ '$' := fun he => h cs (by rw [he])
      have hstep : (s.enter (.tag word)).step r c = s.stepPlain r c := (if_neg hd).trans (if_neg hw)
      rw [hstep]

/-- Word characters between two dollar signs are the tag of a body. -/
theorem run_tag_some {word rest : List Char} (h : cs.dropWhile Text.isWord = '$' :: rest) :
    run r (s.enter (.tag word)) cs =
      run r ((s.keepAll (cs.takeWhile Text.isWord ++ ['$'])).enter
        (.body ('$' :: ((cs.takeWhile Text.isWord).reverse ++ word) ++ ['$']) [])) rest := by
  induction cs generalizing s word with
  | nil => cases h
  | cons c cs ih =>
    show run r ((s.enter (.tag word)).step r c) cs = _
    by_cases hw : Text.isWord c = true
    · have hd : c ≠ '$' := fun he => by rw [he] at hw; exact absurd hw (by decide)
      have hstep : (s.enter (.tag word)).step r c = (s.keep c).enter (.tag (c :: word)) :=
        (if_neg hd).trans (if_pos hw)
      rw [List.dropWhile_cons_of_pos hw] at h
      rw [hstep, ih h, List.takeWhile_cons_of_pos hw, List.reverse_cons, List.append_assoc]
      rfl
    · rw [List.dropWhile_cons_of_neg hw] at h
      cases h
      rw [List.takeWhile_cons_of_neg hw]
      rfl

/-! ## One lexeme, all lexemes -/

/-- A hyphen that no second one follows is plain text. -/
theorem run_hyphen (h : ['-'].isPrefixOf cs = false) :
    run r (s.enter .hyphen) cs = run r ((s.keep '-').enter .plain) cs := by
  cases cs with
  | nil => rfl
  | cons c cs =>
    have hc : c ≠ '-' := fun he => by rw [he] at h; cases h
    have hstep : (s.enter .hyphen).step r c = ((s.enter .hyphen).keep '-').stepPlain r c := if_neg hc
    show run r ((s.enter .hyphen).step r c) cs = _
    rw [hstep]
    rfl

/-- A slash that no star follows is plain text. -/
theorem run_slash (h : ['*'].isPrefixOf cs = false) :
    run r (s.enter .slash) cs = run r ((s.keep '/').enter .plain) cs := by
  cases cs with
  | nil => rfl
  | cons c cs =>
    have hc : c ≠ '*' := fun he => by rw [he] at h; cases h
    have hstep : (s.enter .slash).step r c = ((s.enter .slash).keep '/').stepPlain r c := if_neg hc
    show run r ((s.enter .slash).step r c) cs = _
    rw [hstep]
    rfl

/-- A dollar sign that no tag follows is plain text. -/
theorem run_dollar_none (h : dollarTag? cs = none) :
    run r ((s.keep '$').enter (.tag [])) cs = run r ((s.keep '$').enter .plain) cs := by
  refine run_tag_none fun rest hrest => ?_
  unfold dollarTag? at h
  rw [hrest] at h
  cases h

/-- A tag with its body is left after the tag's next place, or at the end of the text. -/
theorem run_dollar_some {tag rest : List Char} (h : dollarTag? cs = some (tag, rest)) :
    run r ((s.keep '$').enter (.tag [])) cs =
      run r ((s.keepAll (tag ++ (cutThrough tag rest).1)).enter .plain) (cutThrough tag rest).2 := by
  have hne : tag ≠ [] := dollarTag?_ne_nil h
  have hcut : cutThrough tag rest = cutBehind tag.reverse [] rest :=
    cutThrough_eq_cutBehind (u := []) (fun hi => hne (List.infix_nil.mp hi)) rest
  unfold dollarTag? at h
  split at h
  · rename_i rest' hd
    cases h
    have hrev : ('$' :: cs.takeWhile Text.isWord ++ ['$']).reverse =
        '$' :: ((cs.takeWhile Text.isWord).reverse ++ []) ++ ['$'] := by simp
    rw [run_tag_some hd, run_body, hcut, hrev]
    show run r ((((s.keep '$').keepAll _).keepAll _).enter .plain) _ = _
    simp only [keepAll, List.foldl_append, List.foldl_cons, List.cons_append]
  · cases h

theorem opensLineComment_iff :
    opensLineComment r (c :: cs) = true ↔
      (c = '-' ∧ ['-'].isPrefixOf cs = true) ∨ (c = '#' ∧ r.hashComments = true) := by
  simp only [opensLineComment, List.isPrefixOf, Bool.or_eq_true, Bool.and_eq_true, beq_iff_eq, Bool.and_true]
  exact or_congr (and_congr_left' eq_comm) (and_comm.trans (and_congr_left' eq_comm))

/-- A comment to the end of the line. -/
theorem run_opensLineComment (h : opensLineComment r (c :: cs) = true) :
    run r (s.stepPlain r c) cs = run r (s.enter .plain) (cs.dropWhile (· ≠ '\n')) := by
  rw [← run_lineComment]
  rcases opensLineComment_iff.mp h with ⟨rfl, hcs⟩ | ⟨rfl, hr⟩
  · obtain ⟨t, rfl⟩ := List.isPrefixOf_iff_prefix.mp hcs
    rfl
  · have hstep : s.stepPlain r '#' = s.enter .lineComment := by simp [stepPlain, hr]
    rw [hstep]

/-- A comment between a slash with a star and a star with a slash. -/
theorem run_opensBlockComment (h : ['/', '*'].isPrefixOf (c :: cs) = true) :
    run r (s.stepPlain r c) cs =
      run r ((s.leaveSpace.skipAll ('/' :: '*' :: (cutThrough ['*', '/'] cs.tail).1)).enter .plain)
        (cutThrough ['*', '/'] cs.tail).2 := by
  obtain ⟨t, ht⟩ := List.isPrefixOf_iff_prefix.mp h
  obtain ⟨rfl, rfl⟩ : '/' = c ∧ '*' :: t = cs := by simpa using ht
  have hcut : cutThrough ['*', '/'] t = cutBehind ['/', '*'] [] t :=
    cutThrough_eq_cutBehind (u := []) (by simp) t
  show run r ((s.enter .slash).leaveSpace.enter (.blockComment (([] : List Char).head? == some '*'))) t = _
  rw [leaveSpace_enter, List.tail_cons, hcut]
  exact run_blockComment (s := s.leaveSpace) []

/-- A character that opens nothing and is no semicolon is plain text. -/
theorem run_single (hq : ¬ (c = '\x27' ∨ c = '\x22' ∨ c = '\x60')) (hl : ¬ opensLineComment r (c :: cs) = true)
    (hb : ¬ ['/', '*'].isPrefixOf (c :: cs) = true) (hs : c ≠ ';')
    (hd : c = '$' → r.dollarBodies = true → dollarTag? cs = none) :
    run r (s.stepPlain r c) cs = run r ((s.keep c).enter .plain) cs := by
  rw [opensLineComment_iff, not_or] at hl
  unfold stepPlain
  by_cases hh : c = '-'
  · subst hh
    exact run_hyphen (Bool.not_eq_true _ ▸ fun hp => hl.1 ⟨rfl, hp⟩)
  rw [if_neg hh]
  by_cases hsl : c = '/'
  · subst hsl
    exact run_slash (Bool.not_eq_true _ ▸ hb)
  rw [if_neg hsl, if_neg hl.2]
  by_cases hdol : c = '$' ∧ r.dollarBodies = true
  · rw [if_pos hdol, hdol.1]
    exact run_dollar_none (hd hdol.1 hdol.2)
  rw [if_neg hdol, if_neg hq, if_neg hs]

/-- **One lexeme.**  Outside every run, the splitter absorbs the next lexeme and goes on with the rest. -/
theorem run_cons (r : Rules) (s : Scan) (c : Char) (cs : List Char) :
    run r (s.enter .plain) (c :: cs) =
      run r ((s.absorb (nextLexeme r c cs).1).enter .plain) (nextLexeme r c cs).2 := by
  show run r (s.stepPlain r c) cs = _
  unfold nextLexeme
  by_cases hq : c = '\x27' ∨ c = '\x22' ∨ c = '\x60'
  · have hstep : s.stepPlain r c = (s.keep c).enter (.quoted c) := by
      rcases hq with rfl | rfl | rfl <;> simp [stepPlain]
    rw [if_pos hq, hstep, run_quoted]
    rfl
  rw [if_neg hq]
  by_cases hl : opensLineComment r (c :: cs) = true
  · rw [if_pos hl, run_opensLineComment hl]
    rfl
  rw [if_neg hl]
  by_cases hb : ['/', '*'].isPrefixOf (c :: cs) = true
  · rw [if_pos hb, run_opensBlockComment hb]
    rfl
  rw [if_neg hb]
  by_cases hs : c = ';'
  · subst hs
    rfl
  rw [if_neg hs]
  split
  · rename_i tag rest htag hd
    obtain ⟨rfl, hr⟩ : c = '$' ∧ r.dollarBodies = true := by simpa using hd
    have hstep : s.stepPlain r '$' = (s.keep '$').enter (.tag []) := by simp [stepPlain, hr]
    rw [hstep, run_dollar_some htag]
    rfl
  · rename_i hnone
    refine run_single hq hl hb hs fun hd hr => ?_
    cases htag : dollarTag? cs with
    | none => rfl
    | some p => exact absurd (by rw [hd, hr]; rfl) (hnone p.1 p.2 htag)

/-- **All lexemes.**  The splitter absorbs the lexemes of a text one by one. -/
theorem run_eq_foldl_absorb (r : Rules) (s : Scan) (cs : List Char) :
    run r (s.enter .plain) cs = (((lexemes r cs).foldl absorb s).enter .plain).finish := by
  fun_induction lexemes r cs generalizing s with
  | case1 => rfl
  | case2 c cs ih => rw [run_cons, ih, List.foldl_cons]

end Scan
end DumpSummary.Script
