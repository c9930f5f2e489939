import DumpSummary.Script.Split

/-!
# A script cut into lexemes

The splitter goes through a script with a state.  Here the same script is cut, left to right, into lexemes: quoted
runs, comments, dollar-quoted bodies, semicolons and single characters, each found by a search forward in the text
that is left.  No state is carried from one lexeme to the next, and nothing of the text is lost between them.

## Contents

* `cutThrough`, `cutQuoted`, `dollarTag?`: the searches;
* `cutThrough_append`, `cutThrough_eq_cutBehind`: a search forward cuts where a reader that looks back would;
* `Lexeme`, `nextLexeme`, `lexemes`: the cut, and `flatMap_source_lexemes`: the sources give the script back;
* `keptText`, `statementTexts`: what the lexemes between two semicolons leave of a statement.
-/

namespace DumpSummary.Script

/-! ## Searches -/

/-- The text through the first place where `mark` stands, and the rest; all of it if `mark` stands nowhere. -/
def cutThrough (mark : List Char) : List Char → List Char × List Char
  | [] => ([], [])
  | c :: cs =>
    if mark.isPrefixOf (c :: cs) then (mark, (c :: cs).drop mark.length)
    else (c :: (cutThrough mark cs).1, (cutThrough mark cs).2)

/-- The text through the first `q`, and the rest.  With escapes, a backslash takes the next character with it. -/
def cutQuoted (escapes : Bool) (q : Char) : List Char → List Char × List Char
  | [] => ([], [])
  | [c] => ([c], [])
  | c :: d :: cs =>
    if escapes && c == '\\' then (c :: d :: (cutQuoted escapes q cs).1, (cutQuoted escapes q cs).2)
    else if c = q then ([c], d :: cs)
    else (c :: (cutQuoted escapes q (d :: cs)).1, (cutQuoted escapes q (d :: cs)).2)

/-- The tag that a dollar sign before this text opens, word characters between two dollar signs, and the rest. -/
def dollarTag? (cs : List Char) : Option (List Char × List Char) :=
  match cs.dropWhile Text.isWord with
  | '$' :: rest => some ('$' :: cs.takeWhile Text.isWord ++ ['$'], rest)
  | _ => none

theorem cutThrough_source (mark cs : List Char) : (cutThrough mark cs).1 ++ (cutThrough mark cs).2 = cs := by
  induction cs with
  | nil => rfl
  | cons c cs ih =>
    unfold cutThrough
    by_cases h : mark.isPrefixOf (c :: cs) = true
    · rw [if_pos h]
      obtain ⟨t, ht⟩ := List.isPrefixOf_iff_prefix.mp h
      rw [← ht, List.drop_left]
    · rw [if_neg h]
      exact congrArg (c :: ·) ih

theorem cutQuoted_source (escapes : Bool) (q : Char) (cs : List Char) :
    (cutQuoted escapes q cs).1 ++ (cutQuoted escapes q cs).2 = cs := by
  fun_induction cutQuoted escapes q cs with
  | case1 => rfl
  | case2 c => rfl
  | case3 c d cs _ ih => exact congrArg (fun t => c :: d :: t) ih
  | case4 d cs _ => rfl
  | case5 c d cs _ _ ih => exact congrArg (c :: ·) ih

/-- Text in which the mark does not stand is not cut. -/
theorem cutThrough_of_not_infix {mark u : List Char} (h : ¬ mark <:+: u) : cutThrough mark u = (u, []) := by
  induction u with
  | nil => rfl
  | cons c u ih =>
    have hp : ¬ mark.isPrefixOf (c :: u) = true := fun hp => h (List.isPrefixOf_iff_prefix.mp hp).isInfix
    have hu : ¬ mark <:+: u := fun hu => h (List.infix_cons hu)
    unfold cutThrough
    rw [if_neg hp, ih hu]

/-- **Where a cut is.**  The cut comes after the first character that completes the mark. -/
theorem cutThrough_append {mark u cs : List Char} {c : Char} (h : ¬ mark <:+: u) (hc : mark <:+ u ++ [c]) :
    cutThrough mark (u ++ c :: cs) = (u ++ [c], cs) := by
  have hlen : mark.length ≤ u.length + 1 := by simpa using hc.length_le
  have hcs : u ++ c :: cs = (u ++ [c]) ++ cs := by simp
  induction u with
  | nil =>
    have hm : mark = [c] := by
      rcases List.suffix_cons_iff.mp hc with hm | hm
      · exact hm
      · exact absurd ((List.suffix_nil.mp hm) ▸ List.nil_infix) h
    subst hm
    simp [cutThrough]
  | cons d u ih =>
    have hu : ¬ mark <:+: u := fun hu => h (List.infix_cons hu)
    show cutThrough mark (d :: (u ++ c :: cs)) = (d :: (u ++ [c]), cs)
    unfold cutThrough
    rcases List.suffix_cons_iff.mp hc with hm | hm
    · -- the mark is all that was read
      have hp : mark.isPrefixOf (d :: (u ++ c :: cs)) = true :=
        List.isPrefixOf_iff_prefix.mpr ⟨cs, by rw [hm]; simp⟩
      rw [if_pos hp, hm]
      simp
    · -- the mark ends later; it cannot begin at `d`, or it would stand before `c`
      have hle : mark.length ≤ (d :: u).length := by simpa using hm.length_le
      have hp : ¬ mark.isPrefixOf (d :: (u ++ c :: cs)) = true := by
        intro hp
        have hpre : mark <+: (d :: u) ++ c :: cs := List.isPrefixOf_iff_prefix.mp hp
        exact h (List.prefix_of_prefix_length_le hpre (List.prefix_append _ _) hle).isInfix
      rw [if_neg hp, ih hu hm (by simpa using hm.length_le) (by simp)]

/-- The same cut for a reader that looks back: it stops when what it has read, last character first, begins with
    the mark, last character first. -/
def cutBehind (mark read : List Char) : List Char → List Char × List Char
  | [] => ([], [])
  | c :: cs =>
    if mark.isPrefixOf (c :: read) then ([c], cs)
    else (c :: (cutBehind mark (c :: read) cs).1, (cutBehind mark (c :: read) cs).2)

/-- **Looking ahead and looking back cut at the same place**, after a text in which the mark does not stand. -/
theorem cutThrough_eq_cutBehind {mark u : List Char} (h : ¬ mark <:+: u) (cs : List Char) :
    cutThrough mark (u ++ cs) =
      (u ++ (cutBehind mark.reverse u.reverse cs).1, (cutBehind mark.reverse u.reverse cs).2) := by
  induction cs generalizing u with
  | nil =>
    rw [List.append_nil, cutThrough_of_not_infix h]
    simp [cutBehind]
  | cons c cs ih =>
    have hback : mark.reverse.isPrefixOf (c :: u.reverse) = true ↔ mark <:+ u ++ [c] := by
      rw [List.isPrefixOf_iff_prefix, ← List.reverse_prefix]
      simp
    unfold cutBehind
    by_cases hc : mark <:+ u ++ [c]
    · rw [if_pos (hback.mpr hc), cutThrough_append h hc]
    · have hu : ¬ mark <:+: u ++ [c] := by
        rw [List.infix_concat_iff]
        rintro (hi | hi)
        · exact hc hi
        · exact h hi
      have hrev : (u ++ [c]).reverse = c :: u.reverse := by simp
      have hcs : u ++ c :: cs = (u ++ [c]) ++ cs := by simp
      rw [if_neg (fun hb => hc (hback.mp hb)), hcs, ih hu, hrev]
      simp

theorem dollarTag?_source {cs tag rest : List Char} (h : dollarTag? cs = some (tag, rest)) :
    tag ++ rest = '$' :: cs := by
  unfold dollarTag? at h
  split at h
  · rename_i rest' hd
    cases h
    calc ('$' :: cs.takeWhile Text.isWord ++ ['$']) ++ rest
        = '$' :: (cs.takeWhile Text.isWord ++ '$' :: rest) := by simp
      _ = '$' :: cs := by rw [← hd, List.takeWhile_append_dropWhile]
  · cases h

theorem dollarTag?_ne_nil {cs tag rest : List Char} (h : dollarTag? cs = some (tag, rest)) : tag ≠ [] := by
  unfold dollarTag? at h
  split at h
  · cases h
    exact List.cons_ne_nil _ _
  · cases h

/-! ## Lexemes -/

/-- A piece of a script, with the text it was cut from. -/
inductive Lexeme
  /-- A quoted run with its delimiters. -/
  | quoted (source : List Char)
  /-- A comment up to the end of its line. -/
  | lineComment (source : List Char)
  /-- A comment with its stars and slashes. -/
  | blockComment (source : List Char)
  /-- A dollar-quoted body with its tags. -/
  | body (source : List Char)
  /-- A semicolon. -/
  | semicolon
  /-- Any other character. -/
  | single (c : Char)
  deriving DecidableEq, Repr

/-- The text a lexeme was cut from. -/
def Lexeme.source : Lexeme → List Char
  | .quoted w => w
  | .lineComment w => w
  | .blockComment w => w
  | .body w => w
  | .semicolon => [';']
  | .single c => [c]

/-- A comment to the end of the line opens before this text. -/
def opensLineComment (r : Rules) (cs : List Char) : Bool :=
  ['-', '-'].isPrefixOf cs || (r.hashComments && ['#'].isPrefixOf cs)

/-- The first lexeme of the text `c :: cs`, and the rest of the text. -/
def nextLexeme (r : Rules) (c : Char) (cs : List Char) : Lexeme × List Char :=
  if c = '\x27' ∨ c = '\x22' ∨ c = '\x60' then
    let run := cutQuoted (c == '\x27' && r.backslashEscapes) c cs
    (.quoted (c :: run.1), run.2)
  else if opensLineComment r (c :: cs) then
    (.lineComment (c :: cs.takeWhile (· ≠ '\n')), cs.dropWhile (· ≠ '\n'))
  else if ['/', '*'].isPrefixOf (c :: cs) then
    let run := cutThrough ['*', '/'] cs.tail
    (.blockComment ('/' :: '*' :: run.1), run.2)
  else if c = ';' then (.semicolon, cs)
  else
    match dollarTag? cs, c == '$' && r.dollarBodies with
    | some (tag, rest), true => (.body (tag ++ (cutThrough tag rest).1), (cutThrough tag rest).2)
    | _, _ => (.single c, cs)

/-- A lexeme and the rest make up the text. -/
theorem nextLexeme_source (r : Rules) (c : Char) (cs : List Char) :
    (nextLexeme r c cs).1.source ++ (nextLexeme r c cs).2 = c :: cs := by
  unfold nextLexeme
  split
  · exact congrArg (c :: ·) (cutQuoted_source _ c cs)
  split
  · exact congrArg (c :: ·) List.takeWhile_append_dropWhile
  split
  · rename_i h
    obtain ⟨t, ht⟩ := List.isPrefixOf_iff_prefix.mp h
    obtain ⟨rfl, rfl⟩ : '/' = c ∧ '*' :: t = cs := by simpa using ht
    exact congrArg (fun t => '/' :: '*' :: t) (cutThrough_source _ t)
  split
  · rename_i h
    rw [h]
    rfl
  split
  · rename_i tag rest htag hc
    have hc' : c = '$' := by simp at hc; exact hc.1
    show (tag ++ (cutThrough tag rest).1) ++ (cutThrough tag rest).2 = c :: cs
    rw [List.append_assoc, cutThrough_source, dollarTag?_source htag, hc']
  · rfl

theorem source_nextLexeme_ne_nil (r : Rules) (c : Char) (cs : List Char) : (nextLexeme r c cs).1.source ≠ [] := by
  unfold nextLexeme
  split
  · exact List.cons_ne_nil _ _
  split
  · exact List.cons_ne_nil _ _
  split
  · exact List.cons_ne_nil _ _
  split
  · exact List.cons_ne_nil _ _
  split
  · rename_i tag rest htag hc
    exact List.append_ne_nil_of_left_ne_nil (dollarTag?_ne_nil htag) _
  · exact List.cons_ne_nil _ _

/-- The rest after a lexeme is shorter. -/
theorem length_nextLexeme_lt (r : Rules) (c : Char) (cs : List Char) :
    (nextLexeme r c cs).2.length < (c :: cs).length := by
  rw [← nextLexeme_source r c cs, List.length_append]
  have := List.length_pos_iff.mpr (source_nextLexeme_ne_nil r c cs)
  omega

/-- The lexemes of a text. -/
def lexemes (r : Rules) : List Char → List Lexeme
  | [] => []
  | c :: cs => (nextLexeme r c cs).1 :: lexemes r (nextLexeme r c cs).2
termination_by cs => cs.length
decreasing_by exact length_nextLexeme_lt r c cs

/-- **Nothing is lost.**  The sources of the lexemes of a text, put together, are the text. -/
theorem flatMap_source_lexemes (r : Rules) (cs : List Char) : (lexemes r cs).flatMap Lexeme.source = cs := by
  fun_induction lexemes r cs with
  | case1 => rfl
  | case2 c cs ih => rw [List.flatMap_cons, ih, nextLexeme_source]

/-! ## The texts of the statements -/

/-- What a statement keeps of one more lexeme.  A line comment is left out; of a block comment a space is kept if
    there is something before it. -/
def keepLexeme (kept : List Char) : Lexeme → List Char
  | .lineComment _ => kept
  | .blockComment _ => if kept.any (!Text.isBlank ·) then kept ++ [' '] else kept
  | l => kept ++ l.source

/-- What is kept of the lexemes of a statement. -/
def keptText (ls : List Lexeme) : List Char := ls.foldl keepLexeme []

/-- The texts of the statements between the semicolons; one without text is dropped. -/
def statementTexts (r : Rules) (cs : List Char) : List (List Char) :=
  (((lexemes r cs).splitOnP (· == .semicolon)).map fun ls => Text.strip (keptText ls)).filter (!·.isEmpty)

end DumpSummary.Script
