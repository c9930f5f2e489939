import DumpSummary.Proofs.Script.Lines

/-!
# A statement and what follows it

A statement with its semicolon is split off from whatever follows exactly if the splitter, reading the statement alone,
keeps all of it and is outside every run at its end: if the statement is closed.  A run that is left open, a comment or a
semicolon inside cannot be made good by what follows.

For the converse, take a text that is found at the start of a script.  Any text that is found is kept as it is, so the
splitter is in no comment behind it; and were it inside some run there, it would keep the semicolon too.  What is kept
stays kept until the statement ends, so the text that is found would begin with the statement and its semicolon.

## Contents

* `split_of_run_semicolon`, `split_verbatim`, `split_closed`: a statement is split off, **with its lines**;
* `Readable.of_blanks_append`: blanks before a text that is kept as it is;
* `Scan.kept_step`, `Scan.Begins`, `Begins.step`, `Begins.run`: how the first statement begins;
* `closed_of_map_text_split`, `map_text_split_iff_closed`: **when a statement is split off**; `closed_of_verbatim`.
-/

namespace DumpSummary.Script

open Scan

variable {r : Rules}

/-! ## Splitting off -/

/-- When a statement that is kept from the start of a script ends, it is found with its lines. -/
theorem endStatement_keepAll {w : List Char} (hw : Solid w) :
    (initial.keepAll w).endStatement.ended = [⟨String.ofList w, ⟨1, 1 + w.count '\n'⟩⟩] := by
  have hkept : Text.strip (initial.keepAll w).kept.reverse = w := by
    rw [kept_reverse_keepAll]
    exact strip_append (u := []) (fun _ hc => (List.not_mem_nil hc).elim) hw
  have hstart : (initial.keepAll w).start = some 1 := by
    obtain ⟨c, hc, hblank⟩ := hw.first
    obtain ⟨v, rfl⟩ := List.head?_eq_some_iff.mp hc
    have hnoted := start_keepAll (s := initial) (u := []) (w := c :: v) List.prefix_rfl rfl
    rw [hnoted]
    simp [hblank, lineAt, initial]
  have hline : (initial.keepAll w).line = 1 + w.count '\n' := line_keepAll initial w
  unfold endStatement
  dsimp only
  rw [hkept, hstart, hline, ended_keepAll]
  simp [hw.isEmpty_eq_false, initial]

theorem toList_statement (w rest : String) : (w ++ ";" ++ rest).toList = w.toList ++ ';' :: rest.toList := by
  simp

variable {dialect : Option String} {w : String}

/-- A statement that is kept and ends at its semicolon is split off with its lines. -/
theorem split_of_run_semicolon (hw : Solid w.toList)
    (h : ∀ cs, run (Rules.ofDialect dialect) initial (w.toList ++ ';' :: cs) =
      run (Rules.ofDialect dialect) ((initial.keepAll w.toList).endStatement.enter .plain) cs) (rest : String) :
    split dialect (w ++ ";" ++ rest) =
      ⟨w, ⟨1, 1 + lineBreaks w⟩⟩ :: (split dialect rest).map (Fragment.shift (lineBreaks w)) := by
  show run _ initial (w ++ ";" ++ rest).toList = _
  rw [toList_statement, h, run_follows (follows_endStatement w.toList) rfl, endStatement_keepAll hw, String.ofList_toList]
  rfl

/-- **A verbatim statement** is split off from whatever follows. -/
theorem split_verbatim (hverbatim : Verbatim (Rules.ofDialect dialect) w.toList) (hw : Solid w.toList) (rest : String) :
    split dialect (w ++ ";" ++ rest) =
      ⟨w, ⟨1, 1 + lineBreaks w⟩⟩ :: (split dialect rest).map (Fragment.shift (lineBreaks w)) :=
  split_of_run_semicolon hw (fun cs => hverbatim initial (';' :: cs)) rest

/-- **A closed statement** is split off from whatever follows. -/
theorem split_closed (hclosed : Closed (Rules.ofDialect dialect) w.toList) (hw : Solid w.toList) (rest : String) :
    split dialect (w ++ ";" ++ rest) =
      ⟨w, ⟨1, 1 + lineBreaks w⟩⟩ :: (split dialect rest).map (Fragment.shift (lineBreaks w)) :=
  split_of_run_semicolon hw hclosed.run_semicolon rest

/-! ## Blanks before a text -/

/-- Blanks before a text do not change the mode that the text leads to. -/
theorem Reads.of_blanks_append {b w : List Char} (hb : ∀ c ∈ b, Text.isBlank c = true) {u : List Char} {m : Mode}
    (hw : b ++ w = u ++ m.pending) (h : Reads r u m) : ∃ v, w = v ++ m.pending ∧ Reads r v m := by
  induction w using List.reverseRecOn generalizing u m with
  | nil =>
    -- blanks alone lead to the mode the splitter starts in
    have hblanks := (reads_blanks (r := r) hb).foldl_step initial
    have hreads := h.foldl_step initial
    rw [List.append_nil] at hw
    rw [← hw] at hreads
    have hmode : Mode.plain = m := congrArg Scan.mode (((congrArg _ (List.append_nil b)).symm.trans hblanks).symm.trans hreads)
    subst hmode
    exact ⟨[], rfl, .nil⟩
  | append_singleton w c ih =>
    rw [← List.append_assoc] at hw
    obtain ⟨u', m', v, hu', hreads', hkeeps, rfl⟩ := h.exists_before hw
    obtain ⟨x, rfl, hx⟩ := ih hu' hreads'
    refine ⟨x ++ v, ?_, hx.snoc hkeeps⟩
    rw [List.append_assoc, hkeeps.text, List.append_assoc]

theorem Readable.of_blanks_append {b w : List Char} (hb : ∀ c ∈ b, Text.isBlank c = true) (h : Readable r (b ++ w)) :
    Readable r w := by
  obtain ⟨u, m, hw, hreads⟩ := h
  obtain ⟨v, hv, hreads⟩ := hreads.of_blanks_append hb hw
  exact ⟨v, m, hv, hreads⟩

/-! ## How the first statement begins -/

/-- Stripping takes nothing of the beginning of a text that begins and ends with characters that are not blank. -/
theorem prefix_strip {v : List Char} (hv : Solid v) (z : List Char) : v <+: Text.strip (v ++ z) := by
  have hleft : Text.stripLeft (v ++ z) = v ++ z := by
    refine dropWhile_of_head ?_
    obtain ⟨c, hc, hblank⟩ := hv.first
    exact ⟨c, by rw [List.head?_append, hc]; rfl, hblank⟩
  have hlast : v.reverse.dropWhile Text.isBlank = v.reverse :=
    dropWhile_of_head (by rw [List.head?_reverse]; exact hv.last)
  unfold Text.strip Text.stripRight
  rw [hleft, List.reverse_append, List.dropWhile_append]
  split
  · exact ⟨[], by rw [hlast, List.reverse_reverse, List.append_nil]⟩
  · rw [List.reverse_append, List.reverse_reverse]
    exact List.prefix_append _ _

namespace Scan

variable {s : Scan} {v : List Char}

/-- **What is kept stays kept** until the statement ends. -/
theorem kept_step (s : Scan) (c : Char) :
    ((s.step r c).ended = s.ended ∧ s.kept.reverse <+: (s.step r c).kept.reverse) ∨
      s.step r c = s.settle.endStatement.enter .plain := by
  have hall : ∀ w, s.kept.reverse <+: (s.keepAll w).kept.reverse := by
    intro w
    rw [kept_reverse_keepAll]
    exact List.prefix_append _ _
  have heffect := effect_step r s c
  generalize s.step r c = t at heffect ⊢
  cases heffect with
  | @keeps w _ _ _ => exact .inl ⟨ended_keepAll w, hall w⟩
  | ends _ _ => exact .inr rfl
  | number _ _ => exact .inl ⟨ended_keepAll s.mode.pending, hall s.mode.pending⟩
  | hyphens _ _ => exact .inl ⟨rfl, List.prefix_rfl⟩
  | star _ _ =>
    refine .inl ⟨ended_leaveSpace, ?_⟩
    show s.kept.reverse <+: s.leaveSpace.kept.reverse
    unfold leaveSpace
    split
    · exact List.reverse_prefix.mpr (List.suffix_cons ' ' s.kept)
    · exact List.prefix_rfl
  | endsLine _ _ => exact .inl ⟨rfl, hall [c]⟩
  | inLine _ _ => exact .inl ⟨rfl, List.prefix_rfl⟩
  | endsBlock _ _ => exact .inl ⟨rfl, List.prefix_rfl⟩
  | inBlock _ => exact .inl ⟨rfl, List.prefix_rfl⟩

/-- The first statement begins with the text `v`. -/
inductive Begins (v : List Char) (s : Scan) : Prop
  /-- It has not ended, and `v` is kept of it. -/
  | kept : s.ended = [] → v <+: s.kept.reverse → Begins v s
  /-- It has ended. -/
  | ended {f : Fragment} : s.ended.getLast? = some f → v <+: f.text.toList → Begins v s

/-- When a statement ends, the first one has ended. -/
theorem Begins.endStatement (hv : Solid v) (h : s.Begins v) :
    ∃ f, s.settle.endStatement.ended.getLast? = some f ∧ v <+: f.text.toList := by
  have hended : s.settle.ended = s.ended := ended_keepAll s.mode.pending
  cases h with
  | kept hnone hkept =>
    obtain ⟨z, hz⟩ := hkept
    have hstrip : v <+: Text.strip s.settle.kept.reverse := by
      rw [kept_settle, ← hz, List.append_assoc]
      exact prefix_strip hv _
    have hempty : (Text.strip s.settle.kept.reverse).isEmpty = false := by
      rw [List.isEmpty_eq_false_iff]
      intro hnil
      rw [hnil, List.prefix_nil] at hstrip
      have hne := hv.isEmpty_eq_false
      rw [hstrip] at hne
      cases hne
    have hlast : s.settle.endStatement.ended =
        [⟨String.ofList (Text.strip s.settle.kept.reverse), s.settle.start.getD 1, s.settle.line⟩] := by
      unfold Scan.endStatement
      dsimp only
      rw [hempty, hended, hnone]
      rfl
    refine ⟨⟨String.ofList (Text.strip s.settle.kept.reverse), s.settle.start.getD 1, s.settle.line⟩, ?_, ?_⟩
    · rw [hlast]
      rfl
    · rw [String.toList_ofList]
      exact hstrip
  | @ended f hlast hbegins =>
    refine ⟨f, ?_, hbegins⟩
    unfold Scan.endStatement
    dsimp only
    rw [hended]
    split
    · exact hlast
    · rw [List.getLast?_cons, hlast]
      rfl

theorem Begins.step (hv : Solid v) (h : s.Begins v) (c : Char) : (s.step r c).Begins v := by
  rcases kept_step (r := r) s c with ⟨hended, hkept⟩ | hend
  · cases h with
    | kept hnone hbegins => exact .kept (hended.trans hnone) (hbegins.trans hkept)
    | ended hlast hbegins => exact .ended ((congrArg List.getLast? hended).trans hlast) hbegins
  · obtain ⟨f, hlast, hbegins⟩ := h.endStatement hv
    rw [hend]
    exact .ended hlast hbegins

theorem Begins.foldl_step (hv : Solid v) (h : s.Begins v) (cs : List Char) :
    (cs.foldl (Scan.step r) s).Begins v := by
  induction cs generalizing s with
  | nil => exact h
  | cons c cs ih => exact ih (h.step hv c)

/-- **The first statement** that is found begins as its beginning was kept. -/
theorem Begins.run (hv : Solid v) (h : s.Begins v) (cs : List Char) :
    ∃ f, (run r s cs).head? = some f ∧ v <+: f.text.toList := by
  obtain ⟨f, hlast, hbegins⟩ := (h.foldl_step (r := r) hv cs).endStatement hv
  refine ⟨f, ?_, hbegins⟩
  unfold Scan.run
  rw [finish_eq, List.head?_reverse]
  exact hlast

end Scan

/-! ## When a statement is split off -/

/-- Every text that is found is kept as it is. -/
theorem readable_of_mem_texts {script : String} (h : w ∈ (split dialect script).map Fragment.text) :
    Readable (Rules.ofDialect dialect) w.toList := by
  obtain ⟨ws, last, htexts, hws, hlast⟩ := exists_texts_split dialect script
  rw [htexts] at h
  obtain ⟨x, hx, rfl⟩ := List.mem_map.mp h
  rw [String.toList_ofList]
  rcases List.mem_append.mp hx with hx | hx
  · obtain ⟨b, hb, hclosed⟩ := (hws x hx).kind
    exact hclosed.readable.of_blanks_append hb
  · obtain ⟨b, hb, hreadable⟩ := (hlast x (Option.mem_toList.mp hx)).kind
    exact hreadable.of_blanks_append hb

/-- Nothing is pending inside a run. -/
theorem pending_eq_nil {m : Mode} (hm : m.isOutside = false) : m.pending = [] := by
  cases m with
  | hyphen => cases hm
  | slash => cases hm
  | _ => rfl

/-- A semicolon that is kept inside a run is not pending. -/
theorem Keeps.eq_semicolon {m n : Mode} {v : List Char} (h : Keeps r m ';' v n) (hm : m.isOutside = false) :
    v = [';'] := by
  have htext := h.text
  rw [pending_eq_nil hm, List.nil_append] at htext
  have hlast := congrArg List.getLast? htext
  cases n with
  | hyphen => simp [Mode.pending] at hlast
  | slash => simp [Mode.pending] at hlast
  | _ => simpa [Mode.pending] using htext.symm

/-- **Inside a run**, where no comment was opened, a statement goes on with its semicolon. -/
theorem begins_semicolon {m : Mode} {u : List Char} (hreads : Reads r u m) (hm : m.isOutside = false) :
    (((initial.keepAll u).enter m).step r ';').Begins (u ++ [';']) := by
  cases move_of_not_comment r hreads.noComment ';' with
  | @keeps v n hkeeps =>
    have hv : v = [';'] := hkeeps.eq_semicolon hm
    subst hv
    rw [hkeeps.step]
    refine .kept (ended_keepAll (s := initial) u) ?_
    have hkept : ((initial.keepAll u).keepAll [';']).kept.reverse = u ++ [';'] := by
      rw [kept_reverse_keepAll, kept_reverse_keepAll]
      rfl
    exact ⟨[], (List.append_nil _).trans hkept.symm⟩
  | ends hout _ => rw [hm] at hout; cases hout
  | number hout _ _ => rw [hm] at hout; cases hout
  | hyphens hmode _ _ => rw [hmode] at hm; cases hm
  | star hmode _ _ => rw [hmode] at hm; cases hm

/-- **A text that is found first** and that a semicolon follows is closed: were it not, the semicolon would be kept with
it. -/
theorem closed_of_map_text_split {rest : String} {texts : List String}
    (h : (split dialect (w ++ ";" ++ rest)).map Fragment.text = w :: texts) :
    Closed (Rules.ofDialect dialect) w.toList := by
  have hmem : w ∈ (split dialect (w ++ ";" ++ rest)).map Fragment.text := by simp [h]
  obtain ⟨f, hf, hftext⟩ := List.mem_map.mp hmem
  have hsolid : Solid w.toList := hftext ▸ solid_text_of_mem_split hf
  obtain ⟨u, m, hw, hreads⟩ := readable_of_mem_texts hmem
  cases hm : m.isOutside with
  | true => exact ⟨u, m, hm, hw, hreads⟩
  | false =>
    exfalso
    rw [pending_eq_nil hm, List.append_nil] at hw
    subst hw
    have hread : w.toList.foldl (step (Rules.ofDialect dialect)) initial = (initial.keepAll w.toList).enter m := by
      have hall := hreads.foldl_step initial
      rwa [pending_eq_nil hm, List.append_nil] at hall
    have hrun : split dialect (w ++ ";" ++ rest) =
        run (Rules.ofDialect dialect) (((initial.keepAll w.toList).enter m).step (Rules.ofDialect dialect) ';')
          rest.toList := by
      show run _ initial (w ++ ";" ++ rest).toList = _
      unfold run
      rw [toList_statement, List.foldl_append, hread, List.foldl_cons]
    have hlonger : Solid (w.toList ++ [';']) := by
      obtain ⟨c, hc, hblank⟩ := hsolid.first
      exact ⟨⟨c, by rw [List.head?_append, hc]; rfl, hblank⟩, ⟨';', List.getLast?_concat, by decide⟩⟩
    -- so the first text begins with the statement and its semicolon, and it is the statement alone
    obtain ⟨g, hfirst, hbegins⟩ := (begins_semicolon hreads hm).run (r := Rules.ofDialect dialect) hlonger rest.toList
    rw [← hrun] at hfirst
    have hgtext : g.text = w := by
      have hhead := congrArg List.head? h
      rw [List.head?_map, hfirst] at hhead
      exact Option.some.inj hhead
    rw [hgtext] at hbegins
    have hlength := hbegins.length_le
    rw [List.length_append, List.length_singleton] at hlength
    omega

/-- **When a statement is split off.**  In every dialect and whatever follows, a statement with its semicolon is split off
exactly if it is closed. -/
theorem map_text_split_iff_closed (hw : Solid w.toList) (rest : String) :
    (split dialect (w ++ ";" ++ rest)).map Fragment.text = w :: (split dialect rest).map Fragment.text ↔
      Closed (Rules.ofDialect dialect) w.toList := by
  refine ⟨closed_of_map_text_split, fun hclosed => ?_⟩
  rw [split_closed hclosed hw, List.map_cons, List.map_map]
  rfl

/-- A verbatim statement is closed. -/
theorem closed_of_verbatim (h : Verbatim (Rules.ofDialect dialect) w.toList) (hw : Solid w.toList) :
    Closed (Rules.ofDialect dialect) w.toList := by
  refine (map_text_split_iff_closed hw "").mp ?_
  rw [split_verbatim h hw, List.map_cons, List.map_map]
  rfl

end DumpSummary.Script
