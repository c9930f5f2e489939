import DumpSummary.Proofs.Script.Seam
import Mathlib.Data.List.Basic
import Mathlib.Data.List.Induction
import Mathlib.Data.List.TakeWhile

/-!
# Splitting the statements again

The text of a statement is what is left of it without comments and outer blanks.  Put together again, with a semicolon
and blanks between them, such texts are split into themselves: where a comment was taken out, a blank or a line break
keeps apart what stood on its two sides, so no new comment, tag or quoted run comes about.

The argument follows the splitter through the script.  `Reads r u m` says that the splitter, given the text `u` at the
start of a statement, keeps all of it and gets into the mode `m`; `Scan.Retraced` says that this holds, at every place
of the script, of what is kept there and the mode the splitter is in.

## Contents

* `Reads`, `Closed`, `Readable`: texts that are kept as they are; `Closed.of_append_blanks`: also without the blanks
  behind them;
* `exists_strip`, `solid_strip`: the blanks at the ends of a text;
* `Scan.Retraced`, `Scan.Sound`: what holds at every place of a script;
* `exists_texts_split`: what the texts of a script are like;
* `map_text_run_closed`, `map_text_run_readable`: one such text is split off;
* `map_text_split_intercalate`, `split_normal_form`: **splitting again.**
-/

namespace DumpSummary.Script

open Scan

variable {r : Rules} {m : Mode} {c : Char}

/-! ## Texts that are kept as they are -/

/-- Given the text `u` and what is pending in `m` at the start of a statement, the splitter keeps all of `u` and gets
    into the mode `m`. -/
inductive Reads (r : Rules) : List Char → Mode → Prop
  /-- At the start. -/
  | nil : Reads r [] .plain
  /-- One more character. -/
  | snoc {u v : List Char} {m n : Mode} {c : Char} : Reads r u m → Keeps r m c v n → Reads r (u ++ v) n

/-- The text is kept as it is and leaves the splitter outside every run. -/
def Closed (r : Rules) (w : List Char) : Prop := ∃ u m, m.isOutside = true ∧ w = u ++ m.pending ∧ Reads r u m

theorem Reads.foldl_step {u : List Char} (h : Reads r u m) (s : Scan) :
    (u ++ m.pending).foldl (step r) (s.enter .plain) = (s.keepAll u).enter m := by
  induction h with
  | nil => rfl
  | @snoc u v m n c _ hkeeps ih =>
    -- what is kept and pending now is what was kept and pending before, and the character
    have htext : u ++ v ++ n.pending = u ++ m.pending ++ [c] := by
      rw [List.append_assoc, List.append_assoc, hkeeps.text]
    rw [htext, List.foldl_append, ih, keepAll_append]
    exact hkeeps.step (s.keepAll u)

/-- A closed text leaves the splitter outside every run. -/
theorem Closed.isOutside {w : List Char} (h : Closed r w) : (w.foldl (step r) initial).mode.isOutside = true := by
  obtain ⟨u, m, hm, rfl, hreads⟩ := h
  have hread : (u ++ m.pending).foldl (step r) initial = (initial.keepAll u).enter m := hreads.foldl_step initial
  rw [hread]
  exact hm

theorem Reads.noComment {u : List Char} (h : Reads r u m) : m.isComment = false := by
  cases h with
  | nil => rfl
  | snoc _ hkeeps => exact hkeeps.noComment

theorem Reads.proper {u : List Char} (h : Reads r u m) : m.Proper := by
  induction h with
  | nil => trivial
  | @snoc u v m n c _ hkeeps ih =>
    have hstep : ((initial.enter m).step r c).mode.Proper := proper_step ih c
    rw [hkeeps.step] at hstep
    exact hstep

/-- A blank that is no word character is plain text outside every run. -/
theorem keeps_blank (hm : m.isOutside = true) (hc : Text.isBlank c = true) (hw : Text.isWord c = false) :
    Keeps r m c (m.pending ++ [c]) .plain := by
  have hne : ∀ d : Char, Text.isBlank d = false → c ≠ d := by
    intro d hd he
    rw [he, hd] at hc
    cases hc
  have hplain : ∀ s : Scan, s.stepPlain r c = (s.keep c).enter .plain :=
    fun s => stepPlain_of_isPlain (isPlain_of_class (by decide) hc)
  refine ⟨(List.append_nil _).symm, rfl, fun s => ?_⟩
  cases m with
  | plain => exact hplain (s.enter .plain)
  | hyphen => exact (if_neg (hne '-' (by decide))).trans (hplain _)
  | slash => exact (if_neg (hne '*' (by decide))).trans (hplain _)
  | tag word =>
    -- a word character would go on with the tag
    have hdollar : c ≠ '$' := hne '$' (by decide)
    exact (if_neg hdollar).trans ((if_neg (by rw [hw]; decide)).trans (hplain _))
  | quoted q => cases hm
  | escaped q => cases hm
  | lineComment => cases hm
  | blockComment star => cases hm
  | body mark read => cases hm

/-- Blanks at the start of a statement are plain text. -/
theorem reads_blanks {w : List Char} (hw : ∀ c ∈ w, Text.isBlank c = true) : Reads r w .plain := by
  induction w using List.reverseRecOn with
  | nil => exact .nil
  | append_singleton w c ih =>
    have hc : Text.isBlank c = true := hw c (by simp)
    refine .snoc (ih fun d hd => hw d (by simp [hd])) ⟨rfl, rfl, fun s => ?_⟩
    exact stepPlain_of_isPlain (isPlain_of_class (by decide) hc)

/-- A blank that is no word character behind a text that leaves the splitter outside every run. -/
theorem Closed.reads_blank {w : List Char} (h : Closed r w) (hc : Text.isBlank c = true)
    (hword : Text.isWord c = false) : Reads r (w ++ [c]) .plain := by
  obtain ⟨u, m, hm, rfl, hreads⟩ := h
  rw [List.append_assoc]
  exact hreads.snoc (keeps_blank hm hc hword)

/-- **One character back** in a text that is kept as it is. -/
theorem Reads.exists_before {u w : List Char} (h : Reads r u m) (hw : w ++ [c] = u ++ m.pending) :
    ∃ u' m' v, w = u' ++ m'.pending ∧ Reads r u' m' ∧ Keeps r m' c v m ∧ u = u' ++ v := by
  cases h with
  | nil => simp [Mode.pending] at hw
  | @snoc u v m n d hreads hkeeps =>
    -- the last character of the text is the last one that was read, be it kept or pending
    rw [List.append_assoc, ← hkeeps.text, ← List.append_assoc] at hw
    obtain ⟨rfl, hlast⟩ := List.append_inj' hw rfl
    obtain rfl : c = d := by simpa using hlast
    exact ⟨u, m, v, rfl, hreads, hkeeps, rfl⟩

/-- **Without the blank behind it** a text leaves the splitter outside every run too. -/
theorem Closed.of_append_blank {w : List Char} (h : Closed r (w ++ [c])) (hc : Text.isBlank c = true) : Closed r w := by
  obtain ⟨u, m, hm, hw, hreads⟩ := h
  obtain ⟨u', m', v, rfl, hreads', hkeeps, _⟩ := hreads.exists_before hw
  have hm' : m'.isOutside = true := hkeeps.isOutside hreads'.proper hreads'.noComment hm (.inr hc)
  exact ⟨u', m', hm', rfl, hreads'⟩

/-- What is pending is read outside every run. -/
theorem Reads.closed_of_pending {u : List Char} (h : Reads r u m) (hm : m.isOutside = true) (hp : m.pending = [c]) :
    Closed r u := by
  obtain ⟨u', m', v, hu, hreads', hkeeps, _⟩ := h.exists_before (congrArg (u ++ ·) hp.symm)
  have hplain : m ≠ .plain := by
    rintro rfl
    cases hp
  have hm' : m'.isOutside = true := hkeeps.isOutside hreads'.proper hreads'.noComment hm (.inl hplain)
  exact ⟨u', m', hm', hu, hreads'⟩

/-- The text is kept as it is, wherever it leaves the splitter. -/
def Readable (r : Rules) (w : List Char) : Prop := ∃ u m, w = u ++ m.pending ∧ Reads r u m

theorem Closed.readable {w : List Char} (h : Closed r w) : Readable r w := by
  obtain ⟨u, m, _, hw, hreads⟩ := h
  exact ⟨u, m, hw, hreads⟩

/-- **The beginning of a text** that is kept as it is is kept as it is. -/
theorem Readable.of_append {w x : List Char} (h : Readable r (w ++ x)) : Readable r w := by
  induction x using List.reverseRecOn with
  | nil => rwa [List.append_nil] at h
  | append_singleton x c ih =>
    rw [← List.append_assoc] at h
    obtain ⟨u, m, hw, hreads⟩ := h
    obtain ⟨u', m', v, hu, hreads', _, _⟩ := hreads.exists_before hw
    exact ih ⟨u', m', hu, hreads'⟩

/-- Without the blanks behind it a text leaves the splitter outside every run too. -/
theorem Closed.of_append_blanks {w x : List Char} (h : Closed r (w ++ x)) (hx : ∀ c ∈ x, Text.isBlank c = true) :
    Closed r w := by
  induction x using List.reverseRecOn with
  | nil => rwa [List.append_nil] at h
  | append_singleton x c ih =>
    rw [← List.append_assoc] at h
    exact ih (h.of_append_blank (hx c (by simp))) fun d hd => hx d (by simp [hd])

/-! ## The text of a statement -/

/-- The blanks behind a text. -/
theorem stripRight_append (w : List Char) :
    Text.stripRight w ++ (w.reverse.takeWhile Text.isBlank).reverse = w := by
  unfold Text.stripRight
  rw [← List.reverse_append, List.takeWhile_append_dropWhile, List.reverse_reverse]

/-- **A text is what is left of it** between the blanks at its ends. -/
theorem exists_strip (w : List Char) :
    ∃ u v, (∀ c ∈ u, Text.isBlank c = true) ∧ (∀ c ∈ v, Text.isBlank c = true) ∧ w = u ++ Text.strip w ++ v := by
  refine ⟨w.takeWhile Text.isBlank, ((Text.stripLeft w).reverse.takeWhile Text.isBlank).reverse, ?_, ?_, ?_⟩
  · exact fun c hc => List.mem_takeWhile_imp hc
  · exact fun c hc => List.mem_takeWhile_imp (List.mem_reverse.mp hc)
  · rw [List.append_assoc]
    unfold Text.strip
    rw [stripRight_append]
    exact List.takeWhile_append_dropWhile.symm

theorem head?_dropWhile {p : Char → Bool} {w : List Char} (h : w.dropWhile p ≠ []) :
    ∃ c, (w.dropWhile p).head? = some c ∧ p c = false :=
  ⟨(w.dropWhile p).head h, List.head?_eq_some_head h, List.head_dropWhile_not p h⟩

/-- What is left of a text begins and ends with characters that are not blank. -/
theorem solid_strip {w : List Char} (h : Text.strip w ≠ []) : Solid (Text.strip w) := by
  constructor
  · -- what is left begins where the blanks before the text end
    have hhead : (Text.strip w).head? = (Text.stripLeft w).head? := by
      obtain ⟨c, x, hx⟩ := List.exists_cons_of_ne_nil h
      have hcut : Text.strip w ++ _ = Text.stripLeft w := stripRight_append (Text.stripLeft w)
      rw [← hcut, hx]
      rfl
    rw [hhead]
    refine head?_dropWhile fun hnil => h ?_
    unfold Text.strip Text.stripLeft
    rw [hnil]
    rfl
  · have hlast : (Text.strip w).getLast? = ((Text.stripLeft w).reverse.dropWhile Text.isBlank).head? :=
      List.getLast?_reverse
    rw [hlast]
    exact head?_dropWhile fun hnil => h (congrArg List.reverse hnil)

/-! ## Through the script -/

namespace Scan

variable {s : Scan}

/-- What is kept of the current statement would be kept of it alone, and leads to the mode the splitter is in; at a
    comment, to a place outside every run. -/
structure Retraced (r : Rules) (s : Scan) : Prop where
  /-- Outside comments. -/
  text : s.mode.isComment = false → Reads r s.kept.reverse s.mode
  /-- In a comment to the end of the line. -/
  line : s.mode = .lineComment → Closed r s.kept.reverse
  /-- In a block comment, before which a space is left. -/
  block : ∀ star, s.mode = .blockComment star → Reads r s.kept.reverse .plain

theorem Retraced.of_reads (hm : s.mode.isComment = false) (h : Reads r s.kept.reverse s.mode) : s.Retraced r where
  text _ := h
  line he := by rw [he] at hm; cases hm
  block star he := by rw [he] at hm; cases hm

theorem Retraced.of_closed (hm : s.mode = .lineComment) (h : Closed r s.kept.reverse) : s.Retraced r where
  text ht := by rw [hm] at ht; cases ht
  line _ := h
  block star he := by rw [hm] at he; cases he

theorem Retraced.of_block {star : Bool} (hm : s.mode = .blockComment star) (h : Reads r s.kept.reverse .plain) :
    s.Retraced r where
  text ht := by rw [hm] at ht; cases ht
  line he := by rw [hm] at he; cases he
  block _ _ := h

/-- Outside every run, what is kept and what is pending would be kept of it alone. -/
theorem Retraced.closed (h : s.Retraced r) (hm : s.mode.isOutside = true) :
    Closed r (s.kept.reverse ++ s.mode.pending) :=
  ⟨s.kept.reverse, s.mode, hm, rfl, h.text (Mode.isComment_eq_false hm)⟩

/-- What is kept before a character that is pending leaves the splitter outside every run. -/
theorem Retraced.closed_of_pending (h : s.Retraced r) (hm : s.mode.isOutside = true) (hp : s.mode.pending = [c]) :
    Closed r s.kept.reverse :=
  (h.text (Mode.isComment_eq_false hm)).closed_of_pending hm hp

theorem kept_reverse_keepAll (w : List Char) : (s.keepAll w).kept.reverse = s.kept.reverse ++ w := by
  rw [kept_keepAll, List.reverse_append, List.reverse_reverse]

/-- **What is kept is retraced**, one character later. -/
theorem Retraced.step (h : s.Retraced r) (hn : s.Noted) (c : Char) : (s.step r c).Retraced r := by
  have heffect := effect_step r s c
  generalize s.step r c = t at heffect ⊢
  cases heffect with
  | @keeps v n hm hkeeps =>
    refine .of_reads hkeeps.noComment ?_
    show Reads r (s.keepAll v).kept.reverse n
    rw [kept_reverse_keepAll]
    exact (h.text hm).snoc hkeeps
  | ends _ _ => exact .of_reads rfl .nil
  | number hm _ =>
    refine .of_closed rfl ?_
    show Closed r s.settle.kept.reverse
    rw [kept_settle]
    exact h.closed hm
  | hyphens hm _ =>
    -- the hyphen before is not kept any more
    refine .of_closed rfl (h.closed_of_pending (c := '-') ?_ ?_) <;> rw [hm] <;> rfl
  | star hm _ =>
    refine .of_block rfl ?_
    show Reads r s.leaveSpace.kept.reverse .plain
    have hclosed : Closed r s.kept.reverse := by
      refine h.closed_of_pending (c := '/') ?_ ?_ <;> rw [hm] <;> rfl
    -- inside a statement the space keeps its two sides apart; before one only blanks were kept
    rw [kept_leaveSpace hn]
    split
    · exact hclosed.reads_blank (by decide) (by decide)
    · rename_i hblank
      exact reads_blanks (by simpa using hblank)
  | endsLine hm hc =>
    refine .of_reads rfl ?_
    show Reads r (c :: s.kept).reverse .plain
    rw [List.reverse_cons, hc]
    exact (h.line hm).reads_blank (by decide) (by decide)
  | inLine _ _ => exact h
  | endsBlock hm _ => exact .of_reads rfl (h.block true hm)
  | @inBlock star hm => exact .of_block rfl (h.block star hm)

end Scan

/-! ## The statements of a script -/

/-- The text has no blanks at its ends, and with some blanks before it it is of the kind `P`. -/
structure TextOf (P : List Char → Prop) (w : List Char) : Prop where
  /-- Its ends. -/
  solid : Solid w
  /-- Its kind. -/
  kind : ∃ u, (∀ c ∈ u, Text.isBlank c = true) ∧ P (u ++ w)

/-- What is left of a text is of the kind of the text, if blanks behind a text do not change its kind. -/
theorem textOf_strip {P : List Char → Prop}
    (hP : ∀ {w x : List Char}, P (w ++ x) → (∀ c ∈ x, Text.isBlank c = true) → P w) {w : List Char} (h : P w)
    (hw : Text.strip w ≠ []) : TextOf P (Text.strip w) := by
  obtain ⟨u, v, hu, hv, hstrip⟩ := exists_strip w
  rw [hstrip] at h
  exact ⟨solid_strip hw, u, hu, hP h hv⟩

namespace Scan

/-- The statements that have ended can be split again. -/
structure Sound (r : Rules) (s : Scan) : Prop where
  /-- The line of the current statement is noted. -/
  noted : s.Noted
  /-- What is kept of the current statement is retraced. -/
  retraced : s.Retraced r
  /-- The texts of the statements leave the splitter outside every run. -/
  ended : ∀ f ∈ s.ended, TextOf (Closed r) f.text.toList

variable {s : Scan}

theorem sound_initial (r : Rules) : initial.Sound r :=
  ⟨rfl, .of_reads rfl .nil, fun _ hf => (List.not_mem_nil hf).elim⟩

/-- The statement that ends is one more, or nothing is left of it. -/
theorem mem_ended_endStatement {f : Fragment} (h : f ∈ s.endStatement.ended) :
    f ∈ s.ended ∨ Text.strip s.kept.reverse ≠ [] ∧ f.text = String.ofList (Text.strip s.kept.reverse) := by
  unfold endStatement at h
  dsimp only at h
  split at h
  · exact .inl h
  · rename_i hne
    rcases List.mem_cons.mp h with rfl | h
    · exact .inr ⟨by simpa using hne, rfl⟩
    · exact .inl h

theorem Sound.step (h : s.Sound r) (c : Char) : (s.step r c).Sound r := by
  refine ⟨h.noted.step c, h.retraced.step h.noted c, ?_⟩
  rcases ended_step s c with hsame | ⟨hm, hend⟩
  · rw [hsame]
    exact h.ended
  · rw [hend]
    intro f hf
    rcases mem_ended_endStatement hf with hf | ⟨hne, htext⟩
    · unfold settle at hf
      rw [ended_keepAll] at hf
      exact h.ended f hf
    · rw [kept_settle] at hne htext
      rw [htext, String.toList_ofList]
      exact textOf_strip Closed.of_append_blanks (h.retraced.closed hm) hne

theorem Sound.foldl_step (h : s.Sound r) (cs : List Char) : (cs.foldl (Scan.step r) s).Sound r := by
  induction cs generalizing s with
  | nil => exact h
  | cons c cs ih => exact ih (h.step c)

/-- What is kept at the end of the script is kept as it is. -/
theorem Retraced.readable (h : s.Retraced r) : Readable r s.settle.kept.reverse := by
  rw [kept_settle]
  cases hcomment : s.mode.isComment with
  | false => exact ⟨s.kept.reverse, s.mode, rfl, h.text hcomment⟩
  | true =>
    cases hm : s.mode with
    | lineComment =>
      show Readable r (s.kept.reverse ++ [])
      rw [List.append_nil]
      exact (h.line hm).readable
    | blockComment star => exact ⟨s.kept.reverse, .plain, rfl, h.block star hm⟩
    | _ => rw [hm] at hcomment; cases hcomment

end Scan

/-- **The texts of a script.**  All but perhaps the last leave the splitter outside every run. -/
theorem exists_texts_split (dialect : Option String) (script : String) :
    ∃ (ws : List (List Char)) (last : Option (List Char)),
      (split dialect script).map Fragment.text = (ws ++ last.toList).map String.ofList ∧
      (∀ w ∈ ws, TextOf (Closed (Rules.ofDialect dialect)) w) ∧
      ∀ w ∈ last, TextOf (Readable (Rules.ofDialect dialect)) w := by
  have hsound : (stateAfter dialect script).Sound (Rules.ofDialect dialect) :=
    (sound_initial _).foldl_step script.toList
  generalize hs : stateAfter dialect script = s at hsound
  have htexts : (split dialect script).map Fragment.text =
      s.ended.reverse.map Fragment.text ++ ([Text.strip s.settle.kept.reverse].filter (!·.isEmpty)).map String.ofList := by
    rw [split_eq_finish, hs, finish_eq, map_text_endStatement]
    unfold settle
    rw [ended_keepAll]
  have hended : s.ended.reverse.map Fragment.text = (s.ended.reverse.map fun f => f.text.toList).map String.ofList := by
    simp
  have hclosed : ∀ w ∈ s.ended.reverse.map fun f => f.text.toList, TextOf (Closed (Rules.ofDialect dialect)) w := by
    intro w hw
    obtain ⟨f, hf, rfl⟩ := List.mem_map.mp hw
    exact hsound.ended f (List.mem_reverse.mp hf)
  rw [htexts, hended]
  by_cases hlast : Text.strip s.settle.kept.reverse = []
  · refine ⟨_, none, ?_, hclosed, fun w hw => by cases hw⟩
    simp [hlast]
  · refine ⟨_, some (Text.strip s.settle.kept.reverse), ?_, hclosed, ?_⟩
    · simp [hlast]
    · intro w hw
      obtain rfl := Option.mem_some.mp hw
      exact textOf_strip (fun h _ => h.of_append) hsound.retraced.readable hlast

/-! ## Statements put together again -/

section Joined

variable {k : Nat} {found : List Fragment} {t : Scan}

/-- The texts that are found further down are those found above. -/
theorem map_text_run_follows (h : Follows k found initial t) (cs : List Char) :
    (run r (t.enter .plain) cs).map Fragment.text =
      found.reverse.map Fragment.text ++ (run r initial cs).map Fragment.text := by
  have hshift : Fragment.text ∘ Fragment.shift k = Fragment.text := rfl
  rw [run_follows h rfl, List.map_append, List.map_map, hshift]
  rfl

/-- Blanks before the first statement leave no text. -/
theorem map_text_run_blanks {gap : List Char} (hgap : ∀ c ∈ gap, Text.isBlank c = true) (cs : List Char) :
    (run r initial (gap ++ cs)).map Fragment.text = (run r initial cs).map Fragment.text := by
  have hkept : run r initial (gap ++ cs) = run r ((initial.keepAll gap).enter .plain) cs :=
    verbatim_of_plain (fun c hc => isPlain_of_class (by decide) (hgap c hc)) initial cs
  have hseam : Follows 0 [] initial initial := ⟨rfl, rfl, ⟨[], fun _ hc => (List.not_mem_nil hc).elim, rfl⟩, rfl⟩
  rw [hkept, map_text_run_follows (hseam.blanks_at_seam hgap)]
  rfl

/-- When a statement ends whose text was kept after blanks, it is found. -/
theorem map_text_endStatement_keepAll {u w : List Char} (hu : ∀ c ∈ u, Text.isBlank c = true) (hw : Solid w) :
    (initial.keepAll (u ++ w)).endStatement.ended.reverse.map Fragment.text = [String.ofList w] := by
  have hkept : (initial.keepAll (u ++ w)).kept.reverse = u ++ w := by
    rw [kept_keepAll, List.reverse_append, List.reverse_reverse]
    rfl
  rw [map_text_endStatement, hkept, ended_keepAll, strip_append hu hw]
  simp [initial, hw.isEmpty_eq_false]

/-- The state after a text that is kept as it is. -/
theorem Reads.settle_eq {u w : List Char} (huw : w = u ++ m.pending) :
    ((initial.keepAll u).enter m).settle = (initial.keepAll w).enter m := by
  show ((initial.keepAll u).enter m).keepAll m.pending = _
  rw [keepAll_enter, ← keepAll_append, huw]

/-- **The last statement** needs no semicolon. -/
theorem map_text_run_readable {w : List Char} (h : TextOf (Readable r) w) :
    (run r initial w).map Fragment.text = [String.ofList w] := by
  obtain ⟨u, hu, v, m, huw, hreads⟩ := h.kind
  have hrun : run r initial (u ++ w) = ((initial.keepAll v).enter m).finish := by
    rw [huw]
    exact congrArg finish (hreads.foldl_step initial)
  rw [← map_text_run_blanks hu, hrun, finish_eq, Reads.settle_eq huw]
  exact map_text_endStatement_keepAll hu h.solid

/-- Behind a statement and its semicolon the splitter goes on as at the start of a script, further down. -/
theorem follows_endStatement (w : List Char) :
    Follows (w.count '\n') (initial.keepAll w).endStatement.ended initial (initial.keepAll w).endStatement :=
  ⟨line_keepAll initial w, rfl, ⟨[], fun _ hc => (List.not_mem_nil hc).elim, rfl⟩, rfl⟩

/-- A semicolon ends a statement that is kept as it is. -/
theorem Closed.run_semicolon {w : List Char} (h : Closed r w) (cs : List Char) :
    run r initial (w ++ ';' :: cs) = run r ((initial.keepAll w).endStatement.enter .plain) cs := by
  obtain ⟨v, m, hm, hw, hreads⟩ := h
  have hread : w.foldl (step r) initial = (initial.keepAll v).enter m := hw ▸ hreads.foldl_step initial
  unfold run
  rw [List.foldl_append, hread, List.foldl_cons, step_semicolon hm, Reads.settle_eq hw]
  rfl

/-- **A statement with its semicolon** is split off. -/
theorem map_text_run_closed {w : List Char} (h : TextOf (Closed r) w) (cs : List Char) :
    (run r initial (w ++ ';' :: cs)).map Fragment.text =
      String.ofList w :: (run r initial cs).map Fragment.text := by
  obtain ⟨u, hu, hclosed⟩ := h.kind
  rw [← map_text_run_blanks hu, ← List.append_assoc, hclosed.run_semicolon,
    map_text_run_follows (follows_endStatement (u ++ w)), map_text_endStatement_keepAll hu h.solid]
  rfl

/-- **Texts put together again** are split into themselves. -/
theorem map_text_run_intercalate {gap : List Char} (hgap : ∀ c ∈ gap, Text.isBlank c = true)
    {ws : List (List Char)} {last : Option (List Char)} (hws : ∀ w ∈ ws, TextOf (Closed r) w)
    (hlast : ∀ w ∈ last, TextOf (Readable r) w) :
    (run r initial ((';' :: gap).intercalate (ws ++ last.toList))).map Fragment.text =
      (ws ++ last.toList).map String.ofList := by
  induction ws with
  | nil =>
    cases last with
    | none => rfl
    | some w =>
      show (run r initial ((';' :: gap).intercalate [w])).map Fragment.text = [String.ofList w]
      rw [List.intercalate_singleton]
      exact map_text_run_readable (hlast w rfl)
  | cons w ws ih =>
    have hw : TextOf (Closed r) w := hws w List.mem_cons_self
    have hrest := ih fun v hv => hws v (List.mem_cons_of_mem w hv)
    rw [List.cons_append, List.map_cons, ← hrest]
    cases hjoined : ws ++ last.toList with
    | nil =>
      rw [List.intercalate_singleton]
      obtain ⟨u, hu, hclosed⟩ := hw.kind
      exact map_text_run_readable ⟨hw.solid, u, hu, hclosed.readable⟩
    | cons v vs =>
      rw [List.intercalate_cons_cons, List.append_assoc]
      exact (map_text_run_closed hw _).trans (congrArg (String.ofList w :: ·) (map_text_run_blanks hgap _))

end Joined

/-- **Splitting again.**  Texts of statements of a script, in the order of the script and put together with a
    semicolon and blanks between them, are split into themselves. -/
theorem map_text_split_intercalate {dialect : Option String} {script : String} (gap : String)
    (hgap : ∀ c ∈ gap.toList, Text.isBlank c = true) {texts : List String}
    (h : texts.Sublist ((split dialect script).map Fragment.text)) :
    (split dialect (String.intercalate (";" ++ gap) texts)).map Fragment.text = texts := by
  obtain ⟨ws, last, htexts, hws, hlast⟩ := exists_texts_split dialect script
  rw [htexts] at h
  -- the selection of the texts is a selection of those with semicolons and perhaps the last
  obtain ⟨vs, hvs, rfl⟩ := List.sublist_map_iff.mp h
  obtain ⟨vs, tail, rfl, hbefore, htail⟩ := List.sublist_append_iff.mp hvs
  have hend : ∃ last' : Option (List Char), tail = last'.toList ∧ ∀ w ∈ last', w ∈ last := by
    rcases last with _ | w
    · exact ⟨none, List.sublist_nil.mp htail, fun v hv => by cases hv⟩
    · rcases List.sublist_singleton.mp htail with rfl | rfl
      · exact ⟨none, rfl, fun v hv => by cases hv⟩
      · exact ⟨some w, rfl, fun v hv => hv⟩
  obtain ⟨last', rfl, hsame⟩ := hend
  have hscript : (String.intercalate (";" ++ gap) ((vs ++ last'.toList).map String.ofList)).toList =
      (';' :: gap.toList).intercalate (vs ++ last'.toList) := by
    rw [String.toList_intercalate, List.map_map]
    simp [Function.comp_def]
  show (run (Rules.ofDialect dialect) initial _).map Fragment.text = _
  rw [hscript]
  exact map_text_run_intercalate hgap (fun w hw => hws w (hbefore.subset hw)) fun w hw => hlast w (hsame w hw)

/-- The text of a statement begins and ends with characters that are not blank. -/
theorem solid_text_of_mem_split {dialect : Option String} {script : String} {f : Fragment} (hf : f ∈ split dialect script) :
    Solid f.text.toList := by
  obtain ⟨ws, last, htexts, hws, hlast⟩ := exists_texts_split dialect script
  have hmem : f.text ∈ (ws ++ last.toList).map String.ofList := htexts ▸ List.mem_map_of_mem hf
  obtain ⟨w, hw, htext⟩ := List.mem_map.mp hmem
  rw [← htext, String.toList_ofList]
  rcases List.mem_append.mp hw with hw | hw
  · exact (hws w hw).solid
  · exact (hlast w (Option.mem_toList.mp hw)).solid

/-- **Texts are in normal form.**  In every dialect, any selection of the texts of a script, in the order of the script
and put together with semicolons, is split into itself.  So a text alone is split into itself alone; and no text is empty
or begins or ends with a blank. -/
theorem split_normal_form (dialect : Option String) (script : String) :
    (∀ texts : List String, texts.Sublist ((split dialect script).map Fragment.text) →
      (split dialect (String.intercalate ";" texts)).map Fragment.text = texts) ∧
    ∀ f ∈ split dialect script, (split dialect f.text).map Fragment.text = [f.text] ∧ Solid f.text.toList := by
  have hselect : ∀ texts : List String, texts.Sublist ((split dialect script).map Fragment.text) →
      (split dialect (String.intercalate ";" texts)).map Fragment.text = texts := by
    intro texts htexts
    exact map_text_split_intercalate "" (fun _ hc => (List.not_mem_nil hc).elim) htexts
  refine ⟨hselect, fun f hf => ⟨?_, solid_text_of_mem_split hf⟩⟩
  have halone : [f.text].Sublist ((split dialect script).map Fragment.text) :=
    List.singleton_sublist.mpr (List.mem_map_of_mem hf)
  exact hselect [f.text] halone

/-- Comments between hyphens, slashes and stars, and a string that is not closed; the second statement is left out. -/
theorem split_normal_form_comments :
    let script := "a -/**/- b;-- x\n c /-- y\n* d; 'e;"
    (split none script).map Fragment.text = ["a - - b", "c /\n* d", "'e;"] ∧
      (split none (String.intercalate ";" ["a - - b", "'e;"])).map Fragment.text = ["a - - b", "'e;"] ∧
      (split none "c /\n* d").map Fragment.text = ["c /\n* d"] ∧ Solid "c /\n* d".toList := by
  intro script
  obtain ⟨hselect, halone⟩ := split_normal_form none script
  have htexts : (split none script).map Fragment.text = ["a - - b", "c /\n* d", "'e;"] := by decide +kernel
  have hmem : (⟨"c /\n* d", ⟨2, 3⟩⟩ : Fragment) ∈ split none script := by decide +kernel
  have hsecond := halone _ hmem
  dsimp only at hsecond
  refine ⟨htexts, hselect ["a - - b", "'e;"] ?_, hsecond⟩
  rw [htexts]
  exact .cons_cons _ (.cons _ (.cons_cons _ .slnil))

end DumpSummary.Script
