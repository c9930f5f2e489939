import DumpSummary.Proofs.Script.Texts

/-!
# Text that the splitter keeps as it is

Text is verbatim if the splitter, reading it outside every run, keeps all of it and is outside every run again after
it.  Plain characters are verbatim, and so are quoted names and escaped strings, whatever characters the strings hold.
A script made of verbatim statements, each with its semicolon, is split into those statements.

## Contents

* `Verbatim`, with `Verbatim.append`: verbatim texts side by side;
* `verbatim_of_plain`, `verbatim_delimited`, `verbatim_literal`: what is verbatim;
* `strip_blank_append`, `strip_append`: the text of a statement without the blanks before it;
* `map_text_run_statements`: the statements of a script of verbatim statements.
-/

namespace DumpSummary.Script

open Scan

variable {r : Rules}

/-- The splitter keeps all of the text and is outside every run after it. -/
def Verbatim (r : Rules) (w : List Char) : Prop :=
  ∀ (s : Scan) (cs : List Char), run r (s.enter .plain) (w ++ cs) = run r ((s.keepAll w).enter .plain) cs

/-! ## Texts side by side -/

theorem verbatim_nil : Verbatim r [] := fun _ _ => rfl

theorem keepAll_append (s : Scan) (u v : List Char) : s.keepAll (u ++ v) = (s.keepAll u).keepAll v :=
  List.foldl_append

theorem Verbatim.append {u v : List Char} (hu : Verbatim r u) (hv : Verbatim r v) : Verbatim r (u ++ v) := by
  intro s cs
  rw [List.append_assoc, hu, hv, keepAll_append]

/-! ## Plain characters -/

/-- **Plain characters** are verbatim. -/
theorem verbatim_of_plain {w : List Char} (h : ∀ c ∈ w, isPlain r c = true) : Verbatim r w := by
  intro s cs
  induction w generalizing s with
  | nil => rfl
  | cons c w ih =>
    show run r (s.stepPlain r c) (w ++ cs) = _
    rw [stepPlain_of_isPlain (h c List.mem_cons_self)]
    exact ih (fun d hd => h d (List.mem_cons_of_mem c hd)) (s.keep c)

/-! ## Quoted runs -/

/-- Inside a quoted run a character is kept that neither ends the run nor escapes. -/
theorem run_quoted_keep {q c : Char} (hq : c ≠ q) (hc : c ≠ '\\' ∨ q ≠ '\x27' ∨ r.backslashEscapes = false) (s : Scan)
    (cs : List Char) : run r (s.enter (.quoted q)) (c :: cs) = run r ((s.keep c).enter (.quoted q)) cs := by
  show run r ((s.enter (.quoted q)).step r c) cs = _
  rw [step_quoted_keep _ hq]
  rintro ⟨hb, hs, he⟩
  rcases hc with hc | hc | hc
  · exact hc hb
  · exact hc hs
  · rw [hc] at he; cases he

/-- **A run between double quotes or backticks** is verbatim, if it does not have the delimiter inside: no backslash
    escapes there. -/
theorem verbatim_delimited {q : Char} (hq : q = '\x22' ∨ q = '\x60') {w : List Char} (h : q ∉ w) :
    Verbatim r (q :: w ++ [q]) := by
  have hsingle : q ≠ '\x27' := by rcases hq with rfl | rfl <;> decide
  have hopen : ∀ s : Scan, s.stepPlain r q = (s.keep q).enter (.quoted q) := by
    rcases hq with rfl | rfl <;> exact fun _ => rfl
  -- between the delimiters
  have hinside : ∀ (w : List Char), q ∉ w → ∀ (s : Scan) (cs : List Char),
      run r (s.enter (.quoted q)) (w ++ [q] ++ cs) = run r ((s.keepAll (w ++ [q])).enter .plain) cs := by
    intro w
    induction w with
    | nil =>
      intro _ s cs
      show run r ((s.enter (.quoted q)).step r q) cs = _
      rw [step_quoted_close (fun he => hsingle he.2.1) rfl]
      rfl
    | cons c w ih =>
      intro hw s cs
      have hc : c ≠ q := fun he => hw (by rw [he]; exact List.mem_cons_self)
      rw [List.cons_append, List.cons_append, run_quoted_keep hc (.inr (.inl hsingle))]
      exact ih (fun hm => hw (List.mem_cons_of_mem c hm)) (s.keep c) cs
  intro s cs
  show run r (s.stepPlain r q) (w ++ [q] ++ cs) = _
  rw [hopen]
  exact hinside w h (s.keep q) cs

/-- **A name between backticks** is verbatim, if it has none inside. -/
theorem verbatim_backticked {w : List Char} (h : '\x60' ∉ w) : Verbatim r ('\x60' :: w ++ ['\x60']) :=
  verbatim_delimited (.inr rfl) h

/-- A string with its quotes doubled, and its backslashes if they escape. -/
def literalBody (backslashes : Bool) (w : List Char) : List Char :=
  w.flatMap fun c => if c = '\x27' ∨ (backslashes = true ∧ c = '\\') then [c, c] else [c]

/-- **An escaped string** between single quotes is verbatim, whatever characters it holds. -/
theorem verbatim_literal (w : List Char) :
    Verbatim r ('\x27' :: literalBody r.backslashEscapes w ++ ['\x27']) := by
  have hinside : ∀ (w : List Char) (s : Scan) (cs : List Char),
      run r (s.enter (.quoted '\x27')) (literalBody r.backslashEscapes w ++ ['\x27'] ++ cs) =
        run r ((s.keepAll (literalBody r.backslashEscapes w ++ ['\x27'])).enter .plain) cs := by
    intro w
    induction w with
    | nil =>
      intro s cs
      show run r ((s.enter (.quoted '\x27')).step r '\x27') cs = _
      rw [step_quoted_close (fun he => absurd he.1 (by decide)) rfl]
      rfl
    | cons c w ih =>
      intro s cs
      by_cases hc : c = '\x27'
      · -- a doubled quote closes the run and opens the next one
        subst hc
        show run r (((s.enter (.quoted '\x27')).step r '\x27').step r '\x27')
          (literalBody r.backslashEscapes w ++ ['\x27'] ++ cs) = _
        rw [step_quoted_close (fun he => absurd he.1 (by decide)) rfl]
        exact ih ((s.keep '\x27').keep '\x27') cs
      · by_cases hb : r.backslashEscapes = true ∧ c = '\\'
        · -- a doubled backslash escapes itself
          have hbody : literalBody r.backslashEscapes (c :: w) = c :: c :: literalBody r.backslashEscapes w := by
            simp [literalBody, hb]
          rw [hbody]
          show run r (((s.enter (.quoted '\x27')).step r c).step r c)
            (literalBody r.backslashEscapes w ++ ['\x27'] ++ cs) = _
          rw [step_quoted_escape ⟨hb.2, rfl, hb.1⟩]
          exact ih ((s.keep c).keep c) cs
        · have hbody : literalBody r.backslashEscapes (c :: w) = c :: literalBody r.backslashEscapes w := by
            simp [literalBody, hc, hb]
          have hesc : c ≠ '\\' ∨ '\x27' ≠ '\x27' ∨ r.backslashEscapes = false := by
            by_cases he : c = '\\'
            · exact Or.inr (Or.inr (by simpa [he] using hb))
            · exact Or.inl he
          rw [hbody, List.cons_append, List.cons_append, run_quoted_keep hc hesc]
          exact ih (s.keep c) cs
  intro s cs
  exact hinside w (s.keep '\x27') cs

/-! ## Statements -/

/-- The text begins and ends with characters that are not blank. -/
structure Solid (w : List Char) : Prop where
  /-- The first character. -/
  first : ∃ c, w.head? = some c ∧ Text.isBlank c = false
  /-- The last character. -/
  last : ∃ c, w.getLast? = some c ∧ Text.isBlank c = false

theorem Solid.isEmpty_eq_false {w : List Char} (h : Solid w) : w.isEmpty = false := by
  obtain ⟨c, hc, _⟩ := h.first
  cases w with
  | nil => cases hc
  | cons d w => rfl

/-- Dropping what is not there. -/
theorem dropWhile_of_head {p : Char → Bool} {w : List Char} (h : ∃ c, w.head? = some c ∧ p c = false) :
    w.dropWhile p = w := by
  obtain ⟨c, hc, hp⟩ := h
  cases w with
  | nil => cases hc
  | cons d w =>
    obtain rfl : d = c := Option.some.inj hc
    exact List.dropWhile_cons_of_neg (by simp [hp])

/-- The blanks before a text are stripped. -/
theorem strip_blank_append {u : List Char} (hu : ∀ c ∈ u, Text.isBlank c = true) (w : List Char) :
    Text.strip (u ++ w) = Text.strip w := by
  unfold Text.strip Text.stripLeft
  rw [List.dropWhile_append_of_pos hu]

/-- The blanks before a text are stripped, and nothing of the text. -/
theorem strip_append {u w : List Char} (hu : ∀ c ∈ u, Text.isBlank c = true) (hw : Solid w) :
    Text.strip (u ++ w) = w := by
  have hleft : Text.stripLeft w = w := dropWhile_of_head hw.first
  rw [strip_blank_append hu]
  unfold Text.strip Text.stripRight
  rw [hleft, dropWhile_of_head (by rw [List.head?_reverse]; exact hw.last), List.reverse_reverse]

/-- Nothing is left of blanks. -/
theorem strip_of_blank {u : List Char} (hu : ∀ c ∈ u, Text.isBlank c = true) : Text.strip u = [] := by
  have hleft : Text.stripLeft u = [] := by
    have h : (u ++ []).dropWhile Text.isBlank = [] := List.dropWhile_append_of_pos hu
    rwa [List.append_nil] at h
  unfold Text.strip
  rw [hleft]
  rfl

/-- A script of statements, each with its semicolon and blanks after it. -/
def scriptOf (gap : List Char) (ws : List (List Char)) : List Char := ws.flatMap fun w => w ++ ';' :: gap

/-- **A script of verbatim statements** is split into them. -/
theorem map_text_run_statements {gap : List Char} (hgap : ∀ c ∈ gap, Text.isBlank c = true) {ws : List (List Char)}
    (hws : ∀ w ∈ ws, Verbatim r w ∧ Solid w) (s : Scan) (hs : ∀ c ∈ s.kept, Text.isBlank c = true) :
    (run r (s.enter .plain) (scriptOf gap ws)).map Fragment.text =
      s.ended.reverse.map Fragment.text ++ ws.map String.ofList := by
  have hblank : ∀ c ∈ s.kept.reverse, Text.isBlank c = true := fun c hc => hs c (List.mem_reverse.mp hc)
  induction ws generalizing s with
  | nil =>
    show (s.endStatement.ended.reverse).map Fragment.text = _
    rw [map_text_endStatement, strip_of_blank hblank]
    rfl
  | cons w ws ih =>
    obtain ⟨hw, hsolid⟩ := hws w List.mem_cons_self
    have hgapv : Verbatim r gap := verbatim_of_plain fun c hc => isPlain_of_class (by decide) (hgap c hc)
    have htext : Text.strip (s.keepAll w).kept.reverse = w := by
      rw [kept_keepAll, List.reverse_append, List.reverse_reverse, strip_append hblank hsolid]
    have hne : w.isEmpty = false := hsolid.isEmpty_eq_false
    -- the state after the statement, its semicolon and its blanks
    let t := ((s.keepAll w).endStatement).keepAll gap
    have hrun : run r (s.enter .plain) (scriptOf gap (w :: ws)) = run r (t.enter .plain) (scriptOf gap ws) := by
      show run r (s.enter .plain) ((w ++ ';' :: gap) ++ scriptOf gap ws) = _
      rw [List.append_assoc, hw]
      exact hgapv (s.keepAll w).endStatement (scriptOf gap ws)
    have hkept : ∀ c ∈ t.kept, Text.isBlank c = true := by
      intro c hc
      rw [kept_keepAll] at hc
      exact hgap c (by simpa [endStatement] using hc)
    have hended : t.ended.reverse.map Fragment.text = s.ended.reverse.map Fragment.text ++ [String.ofList w] := by
      show ((((s.keepAll w).endStatement).keepAll gap).ended.reverse).map Fragment.text = _
      rw [ended_keepAll, map_text_endStatement, htext, ended_keepAll]
      simp [hne]
    rw [hrun, ih (fun v hv => hws v (List.mem_cons_of_mem w hv)) t hkept
      (fun c hc => hkept c (List.mem_reverse.mp hc)), hended, List.map_cons, List.append_assoc]
    rfl

end DumpSummary.Script
