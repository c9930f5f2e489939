import DumpSummary.Proofs.Script.Apart

/-!
# String data in a script

A string value is written between quotes, with an escape for the characters that would end it.  Between single quotes,
with each quote doubled and each backslash doubled where it escapes, no value gets out of its literal: the insertion is
split off from what follows it, whatever it holds.

MySQL also writes strings between double quotes, where a backslash escapes too.  The splitter takes a backslash for an
escape between single quotes only, so a double quote in the value ends the run although a backslash stands before it.
What follows in the value is read as SQL, and the double quote behind the value opens another run.

## Contents

* `insertion`, `singleQuoted`, `doubleQuoted`: an insertion of one string;
* `split_insertion_singleQuoted`: **single quotes** protect every value;
* `Mode.Aloof`, `aloof_foldl_step`, `isOutside_step`: between no double quotes, and one double quote more;
* `Closed.not_closed`, `verbatim_opening`, `not_closed_insertion`: a double quote in the value;
* `split_breakout`: a value that ends its statement;
* `split_insertion_doubleQuoted`: which values **double quotes** protect.
-/

namespace DumpSummary.Script

open Scan

variable {r : Rules}

/-! ## An insertion of one string -/

/-- An insertion of one value. -/
def insertion (value : String) : String := "INSERT INTO t VALUES (" ++ value ++ ")"

/-- A string between single quotes, which are doubled inside, as backslashes are where they escape. -/
def singleQuoted (dialect : Option String) (s : String) : String :=
  "\x27" ++ String.ofList (literalBody (dialect == some "mysql") s.toList) ++ "\x27"

/-- A string with a backslash before each double quote and each backslash. -/
def escapeDouble (w : List Char) : List Char :=
  w.flatMap fun c => if c = '\\' ∨ c = '\x22' then ['\\', c] else [c]

/-- A string between double quotes, as MySQL writes it. -/
def doubleQuoted (s : String) : String :=
  "\x22" ++ String.ofList (escapeDouble s.toList) ++ "\x22"

theorem toList_insertion (value : String) :
    (insertion value).toList = "INSERT INTO t VALUES (".toList ++ value.toList ++ [')'] := by
  unfold insertion
  rw [String.toList_append, String.toList_append]
  exact congrArg _ rfl

theorem toList_singleQuoted (dialect : Option String) (s : String) :
    (singleQuoted dialect s).toList =
      '\x27' :: literalBody (Rules.ofDialect dialect).backslashEscapes s.toList ++ ['\x27'] := by
  simp [singleQuoted, Rules.ofDialect]

theorem toList_doubleQuoted (s : String) :
    (doubleQuoted s).toList = '\x22' :: escapeDouble s.toList ++ ['\x22'] := by
  simp [doubleQuoted]

/-- Text without special characters, which can be looked at, is verbatim in every dialect. -/
theorem verbatim_of_not_special {w : List Char} (h : w.all (!specials.contains ·) = true) : Verbatim r w := by
  refine verbatim_of_plain fun c hc => ?_
  have hspecial := List.all_eq_true.mp h c hc
  unfold isPlain
  rw [hspecial]
  rfl

theorem verbatim_words : Verbatim r "INSERT INTO t VALUES (".toList := verbatim_of_not_special (by decide)

theorem verbatim_insertion {value : String} (h : Verbatim r value.toList) : Verbatim r (insertion value).toList := by
  have hclose : Verbatim r [')'] := verbatim_of_not_special (by decide)
  rw [toList_insertion]
  exact (verbatim_words.append h).append hclose

theorem solid_insertion (value : String) : Solid (insertion value).toList := by
  rw [toList_insertion]
  exact ⟨⟨'I', rfl, by decide⟩, ⟨')', List.getLast?_concat, by decide⟩⟩

/-- An escape of single characters that neither adds line breaks nor takes them away. -/
theorem count_lineBreak_flatMap {f : Char → List Char} (hf : ∀ c, (f c).count '\n' = [c].count '\n') (w : List Char) :
    (w.flatMap f).count '\n' = w.count '\n' := by
  induction w with
  | nil => rfl
  | cons c w ih =>
    rw [List.flatMap_cons, List.count_append, ih, hf, ← List.count_append]
    rfl

theorem count_literalBody (backslashes : Bool) (w : List Char) :
    (literalBody backslashes w).count '\n' = w.count '\n' := by
  refine count_lineBreak_flatMap (fun c => ?_) w
  split
  · rename_i hc
    rcases hc with rfl | ⟨_, rfl⟩ <;> rfl
  · rfl

theorem count_escapeDouble (w : List Char) : (escapeDouble w).count '\n' = w.count '\n' := by
  refine count_lineBreak_flatMap (fun c => ?_) w
  split
  · rename_i hc
    rcases hc with rfl | rfl <;> rfl
  · rfl

theorem lineBreaks_singleQuoted (dialect : Option String) (s : String) :
    lineBreaks (singleQuoted dialect s) = lineBreaks s := by
  unfold lineBreaks
  rw [toList_singleQuoted]
  simpa using count_literalBody _ s.toList

theorem lineBreaks_doubleQuoted (s : String) : lineBreaks (doubleQuoted s) = lineBreaks s := by
  unfold lineBreaks
  rw [toList_doubleQuoted]
  simpa using count_escapeDouble s.toList

theorem count_words : "INSERT INTO t VALUES (".toList.count '\n' = 0 := by decide

theorem lineBreaks_insertion (value : String) : lineBreaks (insertion value) = lineBreaks value := by
  unfold lineBreaks
  rw [toList_insertion, List.count_append, List.count_append, count_words, Nat.zero_add]
  rfl

/-! ## Single quotes -/

/-- **No value gets out of its single quotes.**  In every dialect an insertion of an escaped string is split off from
whatever follows it, with the lines of the string. -/
theorem split_insertion_singleQuoted (dialect : Option String) (s rest : String) :
    split dialect (insertion (singleQuoted dialect s) ++ ";" ++ rest) =
      ⟨insertion (singleQuoted dialect s), ⟨1, 1 + lineBreaks s⟩⟩ ::
        (split dialect rest).map (Fragment.shift (lineBreaks s)) := by
  have hliteral : Verbatim (Rules.ofDialect dialect) (singleQuoted dialect s).toList := by
    rw [toList_singleQuoted]
    exact verbatim_literal s.toList
  rw [split_verbatim (verbatim_insertion hliteral) (solid_insertion _), lineBreaks_insertion, lineBreaks_singleQuoted]

example : split none (insertion (singleQuoted none "\x27); USE x; --") ++ ";") =
    [⟨"INSERT INTO t VALUES (\x27\x27\x27); USE x; --\x27)", ⟨1, 1⟩⟩] := by
  decide +kernel

/-! ## A double quote and a parenthesis -/

/-- In no run that a double quote or a parenthesis ends. -/
def Mode.Aloof (m : Mode) : Prop := m.Delimited fun q => q ≠ '\x22' ∧ q ≠ ')'

/-- Outside every run a double quote opens one. -/
theorem mode_step_doubleQuote {s : Scan} (hm : s.mode.isOutside = true) : (s.step r '\x22').mode = .quoted '\x22' := by
  have hplain : ∀ u : Scan, (u.stepPlain r '\x22').mode = .quoted '\x22' := fun _ => rfl
  unfold step
  cases hs : s.mode with
  | plain => exact hplain s
  | hyphen => exact hplain (s.keep '-')
  | slash => exact hplain (s.keep '/')
  | tag word => exact hplain s
  | _ => rw [hs] at hm; cases hm

/-- A run is left by its delimiter only, by a line break, a slash or a dollar sign. -/
theorem isOutside_step {s : Scan} {c : Char} (hm : s.mode.isOutside = false) (hd : s.mode.Delimited (c ≠ ·))
    (hc : c ∉ ['\n', '/', '$']) : (s.step r c).mode.isOutside = false := by
  simp only [List.mem_cons, List.not_mem_nil, or_false, not_or] at hc
  obtain ⟨hline, hslash, hdollar⟩ := hc
  unfold step
  cases hs : s.mode with
  | quoted q =>
    have hq : c ≠ q := by rwa [hs] at hd
    -- with a backslash the run goes on too, one character longer
    dsimp only
    rw [if_neg hq]
    split
    · rfl
    · exact congrArg Mode.isOutside hs
  | escaped q => rfl
  | lineComment =>
    dsimp only
    rw [if_neg hline]
    exact congrArg Mode.isOutside hs
  | blockComment star =>
    dsimp only
    rw [if_neg fun h => hslash h.1]
    rfl
  | body mark read =>
    -- the tag ends in a dollar sign, so no other character completes it
    have hmark : mark.head? = some '$' := by rwa [hs] at hd
    obtain ⟨rest, rfl⟩ := List.head?_eq_some_iff.mp hmark
    have hends : ¬ ('$' :: rest).isPrefixOf (c :: read) = true := by
      simp [Ne.symm hdollar]
    dsimp only
    rw [if_neg hends]
    rfl
  | _ => rw [hs] at hm; cases hm

/-- **A double quote and a parenthesis** leave the splitter in a run, unless it was between double quotes. -/
theorem isOutside_after_doubleQuote {s : Scan} (h : s.mode.Aloof) :
    ((s.step r '\x22').step r ')').mode.isOutside = false := by
  have hinside : (s.step r '\x22').mode.isOutside = false := by
    cases hm : s.mode.isOutside with
    | true => rw [mode_step_doubleQuote hm]; rfl
    | false => exact isOutside_step hm (h.mono fun q hq => hq.1.symm) (by decide)
  refine isOutside_step hinside ?_ (by decide)
  exact delimited_step (fun _ => by decide) (h.mono fun q hq => hq.2.symm)

/-- **Without a double quote** the splitter gets between none. -/
theorem aloof_foldl_step {s : Scan} (h : s.mode.Aloof) {cs : List Char} (hcs : '\x22' ∉ cs) :
    (cs.foldl (step r) s).mode.Aloof := by
  induction cs generalizing s with
  | nil => exact h
  | cons c cs ih =>
    have hc : c ≠ '\x22' := fun he => hcs (by rw [he]; exact List.mem_cons_self)
    refine ih (delimited_step ?_ h) fun hmem => hcs (List.mem_cons_of_mem c hmem)
    -- the two other quotes open runs that neither character ends
    rintro (rfl | rfl | rfl)
    · decide
    · exact absurd rfl hc
    · decide

/-! ## Double quotes -/

variable {dialect : Option String}

/-- **One double quote too many.**  A closed text, then text without a double quote, and a double quote and a
parenthesis: the double quote opens a run, or stands in one that the text before it has opened. -/
theorem Closed.not_closed {u v : List Char} (hu : Closed r u) (hv : '\x22' ∉ v) :
    ¬ Closed r (u ++ v ++ ['\x22', ')']) := by
  intro hclosed
  -- behind the closed text the splitter is in no run, so behind the text without a double quote between none
  have hbefore : (u.foldl (step r) initial).mode.Aloof := Mode.delimited_of_isOutside hu.isOutside
  have hinside := isOutside_after_doubleQuote (r := r) (aloof_foldl_step (r := r) hbefore hv)
  have houtside := hclosed.isOutside
  rw [List.foldl_append, List.foldl_append] at houtside
  exact Bool.false_ne_true (hinside.symm.trans houtside)

/-- No double quote stands in an escaped string that did not stand in the string. -/
theorem notMem_escapeDouble {w : List Char} (h : '\x22' ∉ w) : '\x22' ∉ escapeDouble w := by
  intro hmem
  obtain ⟨c, hc, hin⟩ := List.mem_flatMap.mp hmem
  have hne : '\x22' ≠ c := fun he => h (he ▸ hc)
  split at hin <;> simp [hne] at hin

/-- The insertion of a string up to its first double quote, where `a` comes before it. -/
def opening (a : String) : String :=
  "INSERT INTO t VALUES (" ++ ("\x22" ++ String.ofList (escapeDouble a.toList) ++ "\\\x22")

theorem toList_opening (a : String) :
    (opening a).toList =
      "INSERT INTO t VALUES (".toList ++ ('\x22' :: (escapeDouble a.toList ++ ['\\']) ++ ['\x22']) := by
  unfold opening
  rw [String.toList_append]
  exact congrArg _ (by simp)

theorem solid_opening (a : String) : Solid (opening a).toList := by
  rw [toList_opening, ← List.append_assoc]
  exact ⟨⟨'I', rfl, by decide⟩, ⟨'\x22', List.getLast?_concat, by decide⟩⟩

theorem lineBreaks_opening (a : String) : lineBreaks (opening a) = lineBreaks a := by
  unfold lineBreaks
  rw [toList_opening, List.count_append, count_words, Nat.zero_add]
  simpa using count_escapeDouble a.toList

/-- **The first double quote** of a string ends its literal, although a backslash stands before it. -/
theorem verbatim_opening {a : String} (ha : '\x22' ∉ a.toList) : Verbatim r (opening a).toList := by
  rw [toList_opening]
  refine verbatim_words.append (verbatim_delimited (.inl rfl) ?_)
  simpa using notMem_escapeDouble ha

/-- An insertion of a string with a double quote. -/
theorem toList_insertion_doubleQuoted (a b : String) :
    (insertion (doubleQuoted (a ++ "\x22" ++ b))).toList =
      (opening a).toList ++ escapeDouble b.toList ++ ['\x22', ')'] := by
  rw [toList_insertion, toList_doubleQuoted, toList_opening]
  simp [escapeDouble]

theorem closed_opening {a : String} (ha : '\x22' ∉ a.toList) : Closed (Rules.ofDialect dialect) (opening a).toList :=
  closed_of_verbatim (verbatim_opening ha) (solid_opening a)

/-- **A single double quote in a string** leaves its insertion open. -/
theorem not_closed_insertion {a b : String} (ha : '\x22' ∉ a.toList) (hb : '\x22' ∉ b.toList) :
    ¬ Closed (Rules.ofDialect dialect) (insertion (doubleQuoted (a ++ "\x22" ++ b))).toList := by
  rw [toList_insertion_doubleQuoted]
  exact (closed_opening ha).not_closed (notMem_escapeDouble hb)

/-- A string with one double quote. -/
theorem exists_around_doubleQuote {s : String} (h : s.toList.count '\x22' = 1) :
    ∃ a b : String, s = a ++ "\x22" ++ b ∧ '\x22' ∉ a.toList ∧ '\x22' ∉ b.toList := by
  have hmem : '\x22' ∈ s.toList := List.count_pos_iff.mp (by rw [h]; decide)
  obtain ⟨u, v, huv⟩ := List.append_of_mem hmem
  rw [huv, List.count_append, List.count_cons_self] at h
  refine ⟨String.ofList u, String.ofList v, ?_, ?_, ?_⟩
  · rw [← String.toList_inj, huv]
    simp
  · rw [String.toList_ofList]
    exact List.count_eq_zero.mp (by omega)
  · rw [String.toList_ofList]
    exact List.count_eq_zero.mp (by omega)

/-- **A string that ends its statement.**  In every dialect, a semicolon behind the first double quote of a string ends
the statement there, and the rest of the string is split like any other part of the script. -/
theorem split_breakout {a : String} (ha : '\x22' ∉ a.toList) (b rest : String) :
    split dialect (insertion (doubleQuoted (a ++ "\x22" ++ ";" ++ b)) ++ ";" ++ rest) =
      ⟨opening a, ⟨1, 1 + lineBreaks a⟩⟩ ::
        (split dialect (String.ofList (escapeDouble b.toList) ++ "\x22);" ++ rest)).map
          (Fragment.shift (lineBreaks a)) := by
  have hscript : insertion (doubleQuoted (a ++ "\x22" ++ ";" ++ b)) ++ ";" ++ rest =
      opening a ++ ";" ++ (String.ofList (escapeDouble b.toList) ++ "\x22);" ++ rest) := by
    have hdata : a ++ "\x22" ++ ";" ++ b = a ++ "\x22" ++ (";" ++ b) := String.append_assoc
    rw [← String.toList_inj, hdata, toList_statement, toList_statement, toList_insertion_doubleQuoted]
    simp [escapeDouble]
  rw [hscript, split_verbatim (verbatim_opening ha) (solid_opening a), lineBreaks_opening]

/-- **Which strings double quotes protect.**  In MySQL the insertion of a string between double quotes is split off from
whatever follows it exactly if the splitter is outside every run at its end.  So it is, with its lines, if no double
quote stands in the string, and so it never is if exactly one does, whatever stands around it. -/
theorem split_insertion_doubleQuoted (s rest : String) :
    ((split (some "mysql") (insertion (doubleQuoted s) ++ ";" ++ rest)).map Fragment.text =
        insertion (doubleQuoted s) :: (split (some "mysql") rest).map Fragment.text ↔
      Closed (Rules.ofDialect (some "mysql")) (insertion (doubleQuoted s)).toList) ∧
    ('\x22' ∉ s.toList →
      split (some "mysql") (insertion (doubleQuoted s) ++ ";" ++ rest) =
        ⟨insertion (doubleQuoted s), ⟨1, 1 + lineBreaks s⟩⟩ ::
          (split (some "mysql") rest).map (Fragment.shift (lineBreaks s))) ∧
    (s.toList.count '\x22' = 1 →
      (split (some "mysql") (insertion (doubleQuoted s) ++ ";" ++ rest)).map Fragment.text ≠
        insertion (doubleQuoted s) :: (split (some "mysql") rest).map Fragment.text) := by
  refine ⟨map_text_split_iff_closed (solid_insertion _) rest, fun hnone => ?_, fun hone hall => ?_⟩
  · have hliteral : Verbatim (Rules.ofDialect (some "mysql")) (doubleQuoted s).toList := by
      rw [toList_doubleQuoted]
      exact verbatim_delimited (.inl rfl) (notMem_escapeDouble hnone)
    rw [split_verbatim (verbatim_insertion hliteral) (solid_insertion _), lineBreaks_insertion, lineBreaks_doubleQuoted]
  · obtain ⟨a, b, rfl, ha, hb⟩ := exists_around_doubleQuote hone
    exact not_closed_insertion ha hb (closed_of_map_text_split hall)

/-- A backslash at the end of a string without a double quote, and a string with one. -/
theorem split_insertion_doubleQuoted_pipe :
    split (some "mysql") (insertion (doubleQuoted "a;\\") ++ ";" ++ "USE x") =
        [⟨"INSERT INTO t VALUES (\x22a;\\\\\x22)", ⟨1, 1⟩⟩, ⟨"USE x", ⟨1, 1⟩⟩] ∧
      (split (some "mysql") (insertion (doubleQuoted "5\x22 pipe") ++ ";" ++ "USE x")).map Fragment.text ≠
        insertion (doubleQuoted "5\x22 pipe") :: (split (some "mysql") "USE x").map Fragment.text := by
  refine ⟨?_, (split_insertion_doubleQuoted "5\x22 pipe" "USE x").2.2 (by decide)⟩
  rw [(split_insertion_doubleQuoted "a;\\" "USE x").2.1 (by decide)]
  decide +kernel

/-- MySQL reads two statements here; for the splitter the first one ends inside the string. -/
theorem split_insertion_cut :
    (split (some "mysql") (insertion (doubleQuoted "a\x22;b") ++ ";" ++ "USE x")).map Fragment.text =
        ["INSERT INTO t VALUES (\x22a\\\x22", "b\x22);USE x"] ∧
      (split (some "mysql") (insertion (doubleQuoted "a\x22;b") ++ ";" ++ "USE x")).map Fragment.text ≠
        insertion (doubleQuoted "a\x22;b") :: (split (some "mysql") "USE x").map Fragment.text := by
  decide +kernel

end DumpSummary.Script
