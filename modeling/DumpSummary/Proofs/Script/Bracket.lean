import DumpSummary.Proofs.Script.Literal

/-!
# Names between brackets

T-SQL writes a name between brackets where other dialects write it between quotes, and inside the brackets a semicolon,
a quote or the beginning of a comment is a character of the name.  The splitter has no run for brackets: it reads a name
between them like any text outside its runs.  So a semicolon in the name ends the statement, two hyphens begin a comment,
and an apostrophe opens a run that goes on behind the bracket.

What the splitter makes of a text under these rules is told here without its state: a text is self-contained if every
quote in it has its partner, and between the quoted runs stands no semicolon and no comment begins.

## Contents

* `quotes`, `opensComment`, `runBehind`, `selfContained`: texts that leave no run open;
* `Reads.kept`, `Readable.kept`: of a readable text nothing is lost;
* `Stands`, with `Stands.keeps` and `Stands.not_readable`: one character;
* `closed_iff_selfContained`: **the closed texts** are the self-contained ones;
* `selfContained_append_left`, `selfContained_append_right`: text around a name that changes nothing;
* `selfContained_iff_of_no_quote`, `selfContained_of_one_quote`: names without quotes, and with one;
* `bracketed`, `split_bracketed`: which names **brackets** protect.
-/

namespace DumpSummary.Script

open Scan

/-! ## Self-contained texts -/

/-- The characters that open a run and end it. -/
def quotes : List Char := ['\x27', '\x22', '\x60']

/-- A comment begins here, be it up to the end of the line or between slashes and stars. -/
def opensComment (w : List Char) : Bool := ['-', '-'].isPrefixOf w || ['/', '*'].isPrefixOf w

/-- The quoted run that a text is in behind the character `c`, given by its delimiter. -/
def runBehind : Option Char → Char → Option Char
  | none, c => if c ∈ quotes then some c else none
  | some q, c => if c = q then none else some q

/-- From the run `o` on, the text leaves no run open, and outside its runs stands no semicolon and no comment begins. -/
def selfContained : Option Char → List Char → Bool
  | o, [] => o.isNone
  | o, c :: w => (o.isSome || !(c == ';' || opensComment (c :: w))) && selfContained (runBehind o c) w

example : selfContained none "a \x27b;c\x27 /d".toList = true := by decide

/-- The rules of a dialect without comments, escapes and bodies of its own. -/
def plainRules : Rules := ⟨false, false, false⟩

theorem ofDialect_tsql : Rules.ofDialect (some "tsql") = plainRules := by decide

variable {r : Rules} {m : Mode} {c d : Char} {o : Option Char} {u v w : List Char}

theorem opensComment_singleton (c : Char) : opensComment [c] = false := by
  simp [opensComment, List.isPrefixOf]

theorem opensComment_cons_cons : opensComment (c :: d :: w) = true ↔ c = '-' ∧ d = '-' ∨ c = '/' ∧ d = '*' := by
  simp only [opensComment, List.isPrefixOf, Bool.and_true, Bool.or_eq_true, Bool.and_eq_true, beq_iff_eq]
  exact or_congr (and_congr eq_comm eq_comm) (and_congr eq_comm eq_comm)

theorem opensComment_iff_prefix : opensComment w = true ↔ ['-', '-'] <+: w ∨ ['/', '*'] <+: w := by
  rw [opensComment, Bool.or_eq_true, List.isPrefixOf_iff_prefix, List.isPrefixOf_iff_prefix]

/-! ## Nothing of a readable text is lost -/

/-- The splitter's state behind a text that it keeps as it is. -/
theorem Reads.foldl_initial (h : Reads r u m) : (u ++ m.pending).foldl (step r) initial = (initial.keepAll u).enter m :=
  h.foldl_step initial

/-- Behind a readable text the splitter is in no comment, and it has kept the text but for what is pending. -/
theorem Readable.kept (h : Readable r w) :
    (w.foldl (step r) initial).mode.isComment = false ∧
      (w.foldl (step r) initial).kept.reverse ++ (w.foldl (step r) initial).mode.pending = w := by
  obtain ⟨u, m, rfl, hreads⟩ := h
  rw [hreads.foldl_initial]
  refine ⟨hreads.noComment, ?_⟩
  show (initial.keepAll u).kept.reverse ++ m.pending = u ++ m.pending
  rw [kept_reverse_keepAll]
  rfl

/-! ## One character -/

/-- The mode `m` is the one of the run `o` before the text `w`; what is pending is no part of a comment. -/
inductive Stands : Option Char → Mode → List Char → Prop
  /-- Outside every run. -/
  | plain {w : List Char} : Stands none .plain w
  /-- Outside, behind a single hyphen. -/
  | hyphen {w : List Char} : w.head? ≠ some '-' → Stands none .hyphen w
  /-- Outside, behind a slash. -/
  | slash {w : List Char} : w.head? ≠ some '*' → Stands none .slash w
  /-- In a run. -/
  | quoted {q : Char} {w : List Char} : Stands (some q) (.quoted q) w

theorem Stands.isOutside (h : Stands o m w) : m.isOutside = o.isNone := by
  cases h <;> rfl

/-- Outside every run a character is read as if nothing were pending. -/
theorem Stands.step_outside (h : Stands none m (c :: w)) (s : Scan) :
    (s.enter m).step r c = (s.keepAll m.pending).stepPlain r c := by
  cases h with
  | plain => rfl
  | hyphen hne => exact if_neg fun he => hne (congrArg some he)
  | slash hne => exact if_neg fun he => hne (congrArg some he)

theorem head?_ne_of_opensComment (h : opensComment (c :: w) = false) :
    (c = '-' → w.head? ≠ some '-') ∧ (c = '/' → w.head? ≠ some '*') := by
  constructor
  · rintro rfl hw
    obtain ⟨t, rfl⟩ := List.head?_eq_some_iff.mp hw
    exact Bool.false_ne_true (h.symm.trans (opensComment_cons_cons.mpr (.inl ⟨rfl, rfl⟩)))
  · rintro rfl hw
    obtain ⟨t, rfl⟩ := List.head?_eq_some_iff.mp hw
    exact Bool.false_ne_true (h.symm.trans (opensComment_cons_cons.mpr (.inr ⟨rfl, rfl⟩)))

/-- **A character that is kept**: in a run, or outside if it is no semicolon and no comment begins. -/
theorem Stands.keeps (h : Stands o m (c :: w)) (hgo : o.isSome = true ∨ c ≠ ';' ∧ opensComment (c :: w) = false) :
    ∃ v n, Keeps plainRules m c v n ∧ Stands (runBehind o c) n w := by
  cases o with
  | some q =>
    cases h with
    | quoted =>
      have hescape : ¬ (c = '\\' ∧ q = '\x27' ∧ plainRules.backslashEscapes = true) := fun he => by cases he.2.2
      by_cases hc : c = q
      · refine ⟨[c], .plain, ⟨rfl, rfl, fun s => step_quoted_close hescape hc⟩, ?_⟩
        rw [runBehind, if_pos hc]
        exact .plain
      · refine ⟨[c], .quoted q, ⟨rfl, rfl, fun s => step_quoted_keep hescape hc⟩, ?_⟩
        rw [runBehind, if_neg hc]
        exact .quoted
  | none =>
    obtain ⟨hsemi, hcomment⟩ : c ≠ ';' ∧ opensComment (c :: w) = false := by simpa using hgo
    have hstep := h.step_outside (r := plainRules)
    rw [runBehind]
    by_cases hhyphen : c = '-'
    · subst hhyphen
      exact ⟨m.pending, .hyphen, ⟨rfl, rfl, hstep⟩, .hyphen ((head?_ne_of_opensComment hcomment).1 rfl)⟩
    by_cases hslash : c = '/'
    · subst hslash
      exact ⟨m.pending, .slash, ⟨rfl, rfl, hstep⟩, .slash ((head?_ne_of_opensComment hcomment).2 rfl)⟩
    by_cases hquote : c ∈ quotes
    · have hopen : ∀ s : Scan, s.stepPlain plainRules c = (s.keep c).enter (.quoted c) := by
        intro s
        simp only [quotes, List.mem_cons, List.not_mem_nil, or_false] at hquote
        rcases hquote with rfl | rfl | rfl <;> rfl
      rw [if_pos hquote]
      refine ⟨m.pending ++ [c], .quoted c, ⟨(List.append_nil _).symm, rfl, fun s => ?_⟩, .quoted⟩
      rw [hstep, hopen, keepAll_append]
      rfl
    · have hplain : isPlain plainRules c = true := by
        simp only [quotes, List.mem_cons, List.not_mem_nil, or_false, not_or] at hquote
        by_cases hnumber : c = '#'
        · subst hnumber
          rfl
        by_cases hdollar : c = '$'
        · subst hdollar
          rfl
        simp [isPlain, specials, hhyphen, hslash, hquote, hsemi, hnumber, hdollar]
      rw [if_neg hquote]
      refine ⟨m.pending ++ [c], .plain, ⟨(List.append_nil _).symm, rfl, fun s => ?_⟩, .plain⟩
      rw [hstep, stepPlain_of_isPlain hplain, keepAll_append]
      rfl

/-- Outside every run a semicolon is not kept, whatever comes after it. -/
theorem Stands.not_readable_semicolon (h : Stands none m (';' :: w)) (hreads : Reads r u m) :
    ¬ Readable r (u ++ m.pending ++ ';' :: w) := by
  intro hall
  have hsemi : Readable r (u ++ m.pending ++ [';']) := Readable.of_append (x := w) (by simpa using hall)
  obtain ⟨-, hkept⟩ := hsemi.kept
  rw [List.foldl_append, hreads.foldl_initial, List.foldl_cons, List.foldl_nil, step_semicolon h.isOutside] at hkept
  -- at the semicolon the statement ends, and nothing is kept of it any more
  have hnil : [] = u ++ m.pending ++ [';'] := hkept
  simp at hnil

/-- Outside every run the beginning of a comment is not kept, whatever comes after it. -/
theorem Stands.not_readable_comment (h : Stands none m (c :: w)) (hreads : Reads r u m)
    (hopens : opensComment (c :: w) = true) : ¬ Readable r (u ++ m.pending ++ c :: w) := by
  -- the two characters that begin the comment
  obtain ⟨d, x, rfl, hcd⟩ : ∃ d x, w = d :: x ∧ (c = '-' ∧ d = '-' ∨ c = '/' ∧ d = '*') := by
    rcases w with _ | ⟨d, x⟩
    · rw [opensComment_singleton] at hopens
      cases hopens
    · exact ⟨d, x, rfl, opensComment_cons_cons.mp hopens⟩
  intro hall
  have htwo : Readable r (u ++ m.pending ++ [c, d]) := Readable.of_append (x := x) (by simpa using hall)
  obtain ⟨hmode, -⟩ := htwo.kept
  rw [List.foldl_append, hreads.foldl_initial, List.foldl_cons, h.step_outside] at hmode
  rcases hcd with ⟨rfl, rfl⟩ | ⟨rfl, rfl⟩
  · exact Bool.false_ne_true hmode.symm
  · have hblock : ((initial.keepAll u).keepAll m.pending).leaveSpace.enter (.blockComment false) =
        List.foldl (step r) (((initial.keepAll u).keepAll m.pending).stepPlain r '/') ['*'] := by
      show _ = ((((initial.keepAll u).keepAll m.pending).enter .slash).leaveSpace).enter (.blockComment false)
      rw [leaveSpace_enter]
      rfl
    rw [← hblock] at hmode
    exact Bool.false_ne_true hmode.symm

/-! ## The closed texts -/

/-- From a place on that the splitter has come to, keeping all before it, a text is closed exactly if it is
    self-contained. -/
theorem closed_append_iff (hreads : Reads plainRules u m) (h : Stands o m w) :
    Closed plainRules (u ++ m.pending ++ w) ↔ selfContained o w = true := by
  induction w generalizing u m o with
  | nil =>
    rw [List.append_nil]
    constructor
    · intro hclosed
      have hout := hclosed.isOutside
      rw [hreads.foldl_initial] at hout
      exact h.isOutside.symm.trans hout
    · intro hnone
      exact ⟨u, m, h.isOutside.trans hnone, rfl, hreads⟩
  | cons c w ih =>
    by_cases hgo : o.isSome = true ∨ c ≠ ';' ∧ opensComment (c :: w) = false
    · -- the character is kept, and the splitter stands before the rest
      obtain ⟨v, n, hkeeps, hnext⟩ := h.keeps hgo
      have htext : u ++ m.pending ++ c :: w = (u ++ v) ++ n.pending ++ w := by
        rw [List.append_assoc u v, ← hkeeps.text]
        simp
      have hflag : (o.isSome || !(c == ';' || opensComment (c :: w))) = true := by
        rcases hgo with hsome | ⟨hsemi, hcomment⟩
        · rw [hsome]
          rfl
        · simp [hsemi, hcomment]
      rw [htext, ih (hreads.snoc hkeeps) hnext, selfContained, hflag, Bool.true_and]
    · -- the character is not kept, so nothing that follows makes the text closed
      obtain ⟨hnone, hstop⟩ : o = none ∧ (c ≠ ';' → opensComment (c :: w) = true) := by simpa using hgo
      subst hnone
      have hflag : (c == ';' || opensComment (c :: w)) = true := by
        by_cases hsemi : c = ';'
        · simp [hsemi]
        · simp [hstop hsemi]
      have hnot : ¬ Readable plainRules (u ++ m.pending ++ c :: w) := by
        by_cases hsemi : c = ';'
        · subst hsemi
          exact h.not_readable_semicolon hreads
        · exact h.not_readable_comment hreads (hstop hsemi)
      rw [selfContained, hflag]
      exact ⟨fun hclosed => (hnot hclosed.readable).elim, fun hfalse => by simp at hfalse⟩

/-- **The closed texts** of a dialect without rules of its own are the self-contained ones. -/
theorem closed_iff_selfContained (w : List Char) : Closed plainRules w ↔ selfContained none w = true :=
  closed_append_iff .nil .plain

/-! ## The name and what stands around it -/

/-- The characters that make a difference outside the runs. -/
def loose : List Char := [';', '-', '/', '*'] ++ quotes

/-- Text without such characters, which can be looked at. -/
theorem notMem_loose_of_all (h : w.all (!loose.contains ·) = true) : ∀ c ∈ w, c ∉ loose := by
  intro c hc
  simpa using List.all_eq_true.mp h c hc

theorem opensComment_of_not_loose (h : c ∉ loose) (w : List Char) : opensComment (c :: w) = false := by
  rcases w with _ | ⟨d, w⟩
  · exact opensComment_singleton c
  · rw [Bool.eq_false_iff]
    intro hopens
    rcases opensComment_cons_cons.mp hopens with ⟨rfl, -⟩ | ⟨rfl, -⟩
    · exact h (by decide)
    · exact h (by decide)

/-- **Text before a name.** -/
theorem selfContained_append_left (hu : ∀ c ∈ u, c ∉ loose) (w : List Char) :
    selfContained none (u ++ w) = selfContained none w := by
  induction u with
  | nil => rfl
  | cons c u ih =>
    have hc : c ∉ loose := hu c List.mem_cons_self
    have hsemi : c ≠ ';' := fun he => hc (by rw [he]; decide)
    have hquote : c ∉ quotes := fun hmem => hc (List.mem_append_right _ hmem)
    rw [List.cons_append, selfContained, opensComment_of_not_loose hc, runBehind, if_neg hquote,
      ih fun d hd => hu d (List.mem_cons_of_mem c hd)]
    simp [hsemi]

/-- A run goes on through text without quotes. -/
theorem selfContained_some_of_no_quote {q : Char} (hq : q ∈ quotes) (hv : ∀ c ∈ v, c ∉ quotes) :
    selfContained (some q) v = false := by
  induction v with
  | nil => rfl
  | cons c v ih =>
    have hc : c ≠ q := fun he => hv c List.mem_cons_self (he ▸ hq)
    rw [selfContained, runBehind, if_neg hc, ih fun d hd => hv d (List.mem_cons_of_mem c hd), Bool.and_false]

theorem opensComment_append (hv : ∀ c ∈ v, c ∉ loose) (c : Char) (w : List Char) :
    opensComment (c :: (w ++ v)) = opensComment (c :: w) := by
  rcases w with _ | ⟨d, w⟩
  · rcases v with _ | ⟨d, v⟩
    · rfl
    · rw [opensComment_singleton, Bool.eq_false_iff]
      intro hopens
      rcases opensComment_cons_cons.mp hopens with ⟨-, rfl⟩ | ⟨-, rfl⟩
      · exact hv '-' List.mem_cons_self (by decide)
      · exact hv '*' List.mem_cons_self (by decide)
  · rw [List.cons_append, Bool.eq_iff_iff, opensComment_cons_cons, opensComment_cons_cons]

theorem runBehind_mem_quotes (ho : ∀ q ∈ o, q ∈ quotes) (c : Char) : ∀ q ∈ runBehind o c, q ∈ quotes := by
  cases o with
  | none =>
    intro q hq
    rw [runBehind] at hq
    split at hq
    · rename_i hc
      rw [← Option.some.inj hq]
      exact hc
    · cases hq
  | some p =>
    intro q hq
    rw [runBehind] at hq
    split at hq
    · cases hq
    · exact ho q hq

/-- **Text behind a name.** -/
theorem selfContained_append_right (hv : ∀ c ∈ v, c ∉ loose) (ho : ∀ q ∈ o, q ∈ quotes) (w : List Char) :
    selfContained o (w ++ v) = selfContained o w := by
  induction w generalizing o with
  | nil =>
    cases o with
    | none =>
      have hright := selfContained_append_left hv []
      rwa [List.append_nil] at hright
    | some q => exact selfContained_some_of_no_quote (ho q rfl) fun c hc hmem => hv c hc (List.mem_append_right _ hmem)
  | cons c w ih =>
    rw [List.cons_append, selfContained, selfContained, opensComment_append hv, ih (runBehind_mem_quotes ho c)]

/-! ## Names without quotes, and with one -/

/-- A text without quotes is self-contained exactly if no semicolon stands in it and no comment begins. -/
theorem selfContained_iff_of_no_quote (hw : ∀ c ∈ w, c ∉ quotes) :
    selfContained none w = true ↔ ';' ∉ w ∧ ¬ ['-', '-'] <:+: w ∧ ¬ ['/', '*'] <:+: w := by
  induction w with
  | nil => simp [selfContained]
  | cons c w ih =>
    rw [selfContained, runBehind, if_neg (hw c List.mem_cons_self), Bool.and_eq_true,
      ih fun d hd => hw d (List.mem_cons_of_mem c hd), List.infix_cons_iff, List.infix_cons_iff, List.mem_cons]
    have hcomment := opensComment_iff_prefix (w := c :: w)
    cases hopens : opensComment (c :: w) with
    | true =>
      rw [hopens] at hcomment
      have hprefix := hcomment.mp rfl
      simp only [Option.isSome_none, Bool.or_true, Bool.not_true, Bool.or_false, Bool.false_eq_true]
      tauto
    | false =>
      rw [hopens] at hcomment
      have hprefix : ¬ (['-', '-'] <+: c :: w ∨ ['/', '*'] <+: c :: w) := fun h => Bool.false_ne_true (hcomment.mpr h)
      simp only [Option.isSome_none, Bool.or_false, Bool.false_or, Bool.not_eq_true', beq_eq_false_iff_ne, ne_eq]
      tauto

/-- A text with a single quote of whatever kind leaves a run open, unless it ends or begins a comment before. -/
theorem selfContained_of_one_quote (h : w.countP (· ∈ quotes) = 1) : selfContained none w = false := by
  induction w with
  | nil => cases h
  | cons c w ih =>
    by_cases hc : c ∈ quotes
    · -- this is the quote, and nothing behind it ends its run
      rw [List.countP_cons_of_pos (by simpa using hc)] at h
      have hnone : w.countP (· ∈ quotes) = 0 := by omega
      have hw : ∀ d ∈ w, d ∉ quotes := by simpa [List.countP_eq_zero] using hnone
      rw [selfContained, runBehind, if_pos hc, selfContained_some_of_no_quote hc hw, Bool.and_false]
    · rw [List.countP_cons_of_neg (by simpa using hc)] at h
      rw [selfContained, runBehind, if_neg hc, ih h, Bool.and_false]

/-! ## Names between brackets -/

/-- A declaration of a table with its name between brackets. -/
def bracketed (name : String) : String := "CREATE TABLE [" ++ name ++ "] (id INT)"

theorem toList_bracketed (name : String) :
    (bracketed name).toList = "CREATE TABLE [".toList ++ name.toList ++ "] (id INT)".toList := by
  unfold bracketed
  rw [String.toList_append, String.toList_append]

theorem solid_bracketed (name : String) : Solid (bracketed name).toList := by
  rw [toList_bracketed]
  refine ⟨⟨'C', rfl, by decide⟩, ⟨')', ?_, by decide⟩⟩
  rw [List.getLast?_append]
  rfl

theorem lineBreaks_bracketed (name : String) : lineBreaks (bracketed name) = lineBreaks name := by
  have hbefore : "CREATE TABLE [".toList.count '\n' = 0 := by decide
  have hbehind : "] (id INT)".toList.count '\n' = 0 := by decide
  unfold lineBreaks
  rw [toList_bracketed, List.count_append, List.count_append, hbefore, hbehind, Nat.zero_add, Nat.add_zero]

/-- The brackets and the words of the declaration change nothing. -/
theorem closed_bracketed_iff (name : String) :
    Closed (Rules.ofDialect (some "tsql")) (bracketed name).toList ↔ selfContained none name.toList = true := by
  have hbefore : ∀ c ∈ "CREATE TABLE [".toList, c ∉ loose := notMem_loose_of_all (by decide)
  have hbehind : ∀ c ∈ "] (id INT)".toList, c ∉ loose := notMem_loose_of_all (by decide)
  rw [ofDialect_tsql, closed_iff_selfContained, toList_bracketed,
    selfContained_append_right hbehind (fun q hq => by cases hq), selfContained_append_left hbefore]

/-- **Which names brackets protect.**  In T-SQL a declaration with its name between brackets is split off from whatever
follows it exactly if the name is self-contained; then it has the lines of the name.  A name without quotes is
self-contained exactly if no semicolon stands in it and no comment begins, and a name with a single quote never is. -/
theorem split_bracketed (name rest : String) :
    ((split (some "tsql") (bracketed name ++ ";" ++ rest)).map Fragment.text =
        bracketed name :: (split (some "tsql") rest).map Fragment.text ↔
      selfContained none name.toList = true) ∧
    (selfContained none name.toList = true →
      split (some "tsql") (bracketed name ++ ";" ++ rest) =
        ⟨bracketed name, ⟨1, 1 + lineBreaks name⟩⟩ ::
          (split (some "tsql") rest).map (Fragment.shift (lineBreaks name))) ∧
    ((∀ c ∈ name.toList, c ∉ quotes) →
      (selfContained none name.toList = true ↔
        ';' ∉ name.toList ∧ ¬ ['-', '-'] <:+: name.toList ∧ ¬ ['/', '*'] <:+: name.toList)) ∧
    (name.toList.countP (· ∈ quotes) = 1 → selfContained none name.toList = false) := by
  refine ⟨?_, fun hname => ?_, selfContained_iff_of_no_quote, selfContained_of_one_quote⟩
  · exact (map_text_split_iff_closed (solid_bracketed name) rest).trans (closed_bracketed_iff name)
  · rw [split_closed ((closed_bracketed_iff name).mpr hname) (solid_bracketed name), lineBreaks_bracketed]

/-- A semicolon between two apostrophes, a single hyphen, and one apostrophe. -/
theorem split_bracketed_apostrophes :
    split (some "tsql") (bracketed "a\x27;\x27b" ++ ";" ++ "USE x") =
        [⟨"CREATE TABLE [a\x27;\x27b] (id INT)", ⟨1, 1⟩⟩, ⟨"USE x", ⟨1, 1⟩⟩] ∧
      ¬ ['-', '-'] <:+: "well-known".toList ∧
      (split (some "tsql") (bracketed "it\x27s" ++ ";" ++ "USE x")).map Fragment.text ≠
        bracketed "it\x27s" :: (split (some "tsql") "USE x").map Fragment.text := by
  obtain ⟨-, hlines, -⟩ := split_bracketed "a\x27;\x27b" "USE x"
  obtain ⟨-, -, hplain, -⟩ := split_bracketed "well-known" "USE x"
  obtain ⟨hiff, -, -, hone⟩ := split_bracketed "it\x27s" "USE x"
  have hnone : ∀ c ∈ "well-known".toList, c ∉ quotes := by simp [quotes]
  refine ⟨?_, ((hplain hnone).mp (by decide)).2.1, fun hall => ?_⟩
  · rw [hlines (by decide)]
    decide +kernel
  · exact Bool.false_ne_true ((hone (by decide)).symm.trans (hiff.mp hall))

/-- T-SQL reads one declaration here; for the splitter it ends inside the brackets. -/
theorem split_bracketed_cut :
    (split (some "tsql") (bracketed "a;b" ++ ";" ++ "")).map Fragment.text =
        ["CREATE TABLE [a", "b] (id INT)"] ∧
      (split (some "tsql") (bracketed "a;b" ++ ";" ++ "")).map Fragment.text ≠
        bracketed "a;b" :: (split (some "tsql") "").map Fragment.text := by
  decide +kernel

end DumpSummary.Script
