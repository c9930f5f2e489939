import DumpSummary.Proofs.Script.Resplit

/-!
# The lines of the statements

The splitter counts line breaks while it reads: in plain text, behind a backslash, in comments and in dollar-quoted
bodies.  Here the lines of a statement are read off the script instead.  The lexemes of the script have positions, and
so have the characters that they leave in a statement; the first line of a statement is that of its first character
that is kept and not blank, the last line that of its semicolon or of the end of the script.

`Scan.Reached` says that the splitter has come to a position; every lexeme leads from the position before it to the one
behind it.  Then the statements are gone through, one group of lexemes after the other.

## Contents

* `lineAt`, `Lexeme.placed`, `placed`: positions and their lines; characters that are kept, with their positions;
* `Placement`, `placement?`, `placements`: where the statements of a script stand;
* `head?_strip`, `head?_strip_keptText`, `mem_placed`: the first character of a statement;
* `Scan.Reached`, `start_absorb`, `reached_foldl_absorb`: the splitter at a position;
* `groups_induction`, `ended_group`, `ended_foldl_absorb`: from one group of lexemes to all of them;
* `Placement.Fits`, `fits_placementsFrom`: what stands at the positions, and their order;
* `split_eq_placements`: **the lines of the statements.**
-/

namespace DumpSummary.Script

/-! ## Positions -/

/-- The line of a position of a script, counted from one. -/
def lineAt (script : List Char) (i : Nat) : Nat := 1 + (script.take i).count '\n'

/-- The characters that a lexeme at the position `i` leaves in its statement, with their positions.  A comment leaves
    none of its characters. -/
def Lexeme.placed (i : Nat) : Lexeme → List (Char × Nat)
  | .lineComment _ => []
  | .blockComment _ => []
  | l => l.source.zipIdx i

/-- The length of the text that lexemes were cut from. -/
def width (ls : List Lexeme) : Nat := (ls.flatMap Lexeme.source).length

/-- The characters that lexemes leave in their statement, with their positions; the first lexeme stands at `i`. -/
def placed (i : Nat) : List Lexeme → List (Char × Nat)
  | [] => []
  | l :: ls => l.placed i ++ placed (i + l.source.length) ls

/-- The first character that lexemes leave in their statement and that is not blank, with its position. -/
def firstPlaced? (i : Nat) (ls : List Lexeme) : Option (Char × Nat) :=
  (placed i ls).find? (!Text.isBlank ·.1)

/-- Where a statement stands in a script. -/
structure Placement where
  /-- Its text. -/
  text : List Char
  /-- The position of its first character that is kept and not blank. -/
  first : Nat
  /-- The position of the semicolon that ends it, or of the end of the script. -/
  stop : Nat
  deriving DecidableEq, Repr

/-- The fragment that a statement of the script makes. -/
def Placement.fragment (script : List Char) (p : Placement) : Fragment :=
  ⟨String.ofList p.text, ⟨lineAt script p.first, lineAt script p.stop⟩⟩

/-- Where the statement of these lexemes stands, the first of which stands at `i`; if there is one. -/
def placement? (i : Nat) (ls : List Lexeme) : Option Placement :=
  (firstPlaced? i ls).map fun p => ⟨Text.strip (keptText ls), p.2, i + width ls⟩

/-- Where the statements of these groups of lexemes stand, the first of which stands at `i`.  A semicolon stands between
    one group and the next. -/
def placementsFrom (i : Nat) : List (List Lexeme) → List Placement
  | [] => []
  | ls :: lss => (placement? i ls).toList ++ placementsFrom (i + width ls + 1) lss

/-- Where the statements of a script stand. -/
def placements (r : Rules) (script : List Char) : List Placement :=
  placementsFrom 0 ((lexemes r script).splitOnP (· == .semicolon))

variable {script u : List Char}

theorem lineAt_mono {i j : Nat} (h : i ≤ j) : lineAt script i ≤ lineAt script j :=
  Nat.add_le_add_left ((List.take_sublist_take_left h).count_le '\n') 1

theorem lineAt_le (i : Nat) : lineAt script i ≤ 1 + script.count '\n' :=
  Nat.add_le_add_left ((List.take_sublist i script).count_le '\n') 1

/-- Behind a piece of the script the line is as many line breaks further down as the piece has. -/
theorem lineAt_add {w : List Char} (h : u ++ w <+: script) :
    lineAt script (u.length + w.length) = lineAt script u.length + w.count '\n' := by
  obtain ⟨v, rfl⟩ := h
  have hbefore : (u ++ w ++ v).take u.length = u := by
    rw [List.append_assoc]
    exact List.take_left
  have hbehind : (u ++ w ++ v).take (u.length + w.length) = u ++ w := by
    rw [← List.length_append]
    exact List.take_left
  unfold lineAt
  rw [hbefore, hbehind, List.count_append, Nat.add_assoc]

theorem width_cons (l : Lexeme) (ls : List Lexeme) : width (l :: ls) = l.source.length + width ls := by
  simp [width]

/-- The pieces of the script in front of some lexemes. -/
theorem prefix_cons {l : Lexeme} {ls : List Lexeme} (h : u ++ (l :: ls).flatMap Lexeme.source <+: script) :
    u ++ l.source <+: script ∧ (u ++ l.source) ++ ls.flatMap Lexeme.source <+: script := by
  rw [List.flatMap_cons, ← List.append_assoc] at h
  exact ⟨(List.prefix_append _ _).trans h, h⟩

theorem firstPlaced?_cons (i : Nat) (l : Lexeme) (ls : List Lexeme) :
    firstPlaced? i (l :: ls) =
      ((l.placed i).find? (!Text.isBlank ·.1)).or (firstPlaced? (i + l.source.length) ls) :=
  List.find?_append

/-! ## The first character of a statement -/

theorem find?_of_blank {w : List Char} (hw : ∀ c ∈ w, Text.isBlank c = true) : w.find? (!Text.isBlank ·) = none := by
  rw [List.find?_eq_none]
  intro c hc
  simp [hw c hc]

/-- What is left of a text begins with the first character of the text that is not blank. -/
theorem head?_strip (w : List Char) : (Text.strip w).head? = w.find? (!Text.isBlank ·) := by
  obtain ⟨u, v, hu, hv, hw⟩ := exists_strip w
  have hfind : w.find? (!Text.isBlank ·) = (Text.strip w).find? (!Text.isBlank ·) := by
    conv => lhs; rw [hw]
    rw [List.find?_append, List.find?_append, find?_of_blank hu, find?_of_blank hv, Option.none_or, Option.or_none]
  rw [hfind]
  cases hstrip : Text.strip w with
  | nil => rfl
  | cons c x =>
    have hne : Text.strip w ≠ [] := by simp [hstrip]
    obtain ⟨d, hd, hblank⟩ := (solid_strip hne).first
    rw [hstrip] at hd
    obtain rfl : c = d := Option.some.inj hd
    simp [hblank]

/-- With their positions, the characters of a text are found as they are. -/
theorem map_find?_zipIdx (p : Char → Bool) (w : List Char) (i : Nat) :
    ((w.zipIdx i).find? (p ·.1)).map Prod.fst = w.find? p := by
  have hchars : (w.zipIdx i).map Prod.fst = w := List.zipIdx_map_fst i w
  conv => rhs; rw [← hchars]
  rw [List.find?_map]
  rfl

/-- One more lexeme and the first character that is not blank. -/
theorem find?_keepLexeme (kept : List Char) (l : Lexeme) (i : Nat) :
    (keepLexeme kept l).find? (!Text.isBlank ·) =
      (kept.find? (!Text.isBlank ·)).or (((l.placed i).find? (!Text.isBlank ·.1)).map Prod.fst) := by
  have hsource : ∀ w : List Char, (kept ++ w).find? (!Text.isBlank ·) =
      (kept.find? (!Text.isBlank ·)).or (((w.zipIdx i).find? (!Text.isBlank ·.1)).map Prod.fst) := by
    intro w
    rw [List.find?_append, map_find?_zipIdx (!Text.isBlank ·)]
  cases l with
  | lineComment w => exact (Option.or_none).symm
  | blockComment w =>
    -- the space that is left is blank
    have hspace : Text.isBlank ' ' = true := by decide
    show (if kept.any (!Text.isBlank ·) then kept ++ [' '] else kept).find? _ = _
    split
    · rw [List.find?_append]
      simp [hspace, Lexeme.placed]
    · exact (Option.or_none).symm
  | quoted w => exact hsource w
  | body w => exact hsource w
  | semicolon => exact hsource [';']
  | single c => exact hsource [c]

theorem find?_foldl_keepLexeme (kept : List Char) (ls : List Lexeme) (i : Nat) :
    (ls.foldl keepLexeme kept).find? (!Text.isBlank ·) =
      (kept.find? (!Text.isBlank ·)).or ((firstPlaced? i ls).map Prod.fst) := by
  induction ls generalizing kept i with
  | nil => exact (Option.or_none).symm
  | cons l ls ih =>
    rw [List.foldl_cons, ih _ (i + l.source.length), find?_keepLexeme kept l i, Option.or_assoc, firstPlaced?_cons,
      Option.map_or]

/-- **The first character** of a statement is the first one that its lexemes leave in it and that is not blank. -/
theorem head?_strip_keptText (i : Nat) (ls : List Lexeme) :
    (Text.strip (keptText ls)).head? = (firstPlaced? i ls).map Prod.fst := by
  rw [head?_strip, keptText, find?_foldl_keepLexeme [] ls i]
  rfl

/-- The characters stand where they are said to stand. -/
theorem mem_placed {ls : List Lexeme} {c : Char} {j : Nat} (hscript : u ++ ls.flatMap Lexeme.source <+: script)
    (h : (c, j) ∈ placed u.length ls) :
    u.length ≤ j ∧ j < u.length + width ls ∧ script[j]? = some c := by
  induction ls generalizing u with
  | nil => cases h
  | cons l ls ih =>
    obtain ⟨hfirst, hrest⟩ := prefix_cons hscript
    have hlength : (u ++ l.source).length = u.length + l.source.length := List.length_append
    rw [width_cons]
    rcases List.mem_append.mp h with hl | hls
    · have hsource : (c, j) ∈ l.source.zipIdx u.length := by
        cases l with
        | lineComment w => cases hl
        | blockComment w => cases hl
        | _ => exact hl
      obtain ⟨hle, hget⟩ := List.mk_mem_zipIdx_iff_le_and_getElem?_sub.mp hsource
      have hlt : j - u.length < l.source.length := (List.getElem?_eq_some_iff.mp hget).1
      refine ⟨hle, by omega, ?_⟩
      obtain ⟨v, rfl⟩ := hfirst
      rw [List.append_assoc, List.getElem?_append_right hle, List.getElem?_append_left hlt, hget]
    · rw [← hlength] at hls
      obtain ⟨hle, hlt, hget⟩ := ih hrest hls
      exact ⟨by omega, by omega, hget⟩

/-! ## The splitter at a position -/

/-- A comment to the end of its line has no line break. -/
def Lexeme.InLine : Lexeme → Prop
  | .lineComment w => '\n' ∉ w
  | _ => True

theorem inLine_nextLexeme (r : Rules) (c : Char) (cs : List Char) : (nextLexeme r c cs).1.InLine := by
  unfold nextLexeme
  split
  · trivial
  split
  · rename_i hopens
    -- neither what opens the comment nor what is taken of the line is a line break
    intro hmem
    rcases List.mem_cons.mp hmem with rfl | hline
    · rcases Scan.opensLineComment_iff.mp hopens with ⟨hhyphen, _⟩ | ⟨hnumber, _⟩
      · exact absurd hhyphen (by decide)
      · exact absurd hnumber (by decide)
    · simpa using List.mem_takeWhile_imp hline
  split
  · trivial
  split
  · trivial
  split <;> trivial

theorem inLine_lexemes (r : Rules) (cs : List Char) : ∀ l ∈ lexemes r cs, l.InLine := by
  fun_induction lexemes r cs with
  | case1 => exact fun _ hl => (List.not_mem_nil hl).elim
  | case2 c cs ih =>
    intro l hl
    rcases List.mem_cons.mp hl with rfl | hl
    · exact inLine_nextLexeme r c cs
    · exact ih l hl

namespace Scan

variable {s : Scan}

/-- The splitter has come to the position `i` of the script. -/
structure Reached (script : List Char) (i : Nat) (s : Scan) : Prop where
  /-- It is on the line of the position. -/
  line : s.line = lineAt script i
  /-- The line of the current statement is noted. -/
  noted : s.Noted

theorem line_absorb {l : Lexeme} (hl : l.InLine) : (s.absorb l).line = s.line + l.source.count '\n' := by
  cases l with
  | lineComment w => simp [absorb, Lexeme.source, List.count_eq_zero_of_not_mem hl]
  | blockComment w => simp [absorb, line_skipAll, Lexeme.source]
  | semicolon => rfl
  | quoted w => exact line_keepAll s w
  | body w => exact line_keepAll s w
  | single c => exact line_keep s c

/-- **Behind a lexeme** the splitter has come to the position behind it. -/
theorem Reached.absorb {l : Lexeme} (h : s.Reached script u.length) (hscript : u ++ l.source <+: script)
    (hl : l.InLine) : (s.absorb l).Reached script (u ++ l.source).length := by
  refine ⟨?_, noted_absorb h.noted l⟩
  rw [line_absorb hl, h.line, List.length_append, lineAt_add hscript]

/-- The line that is noted for a statement, behind a text that is kept: if none was noted before, that of the first
    character that is not blank. -/
theorem start_keepAll {w : List Char} (hscript : u ++ w <+: script) (h : s.line = lineAt script u.length) :
    (s.keepAll w).start =
      s.start.or (((w.zipIdx u.length).find? (!Text.isBlank ·.1)).map fun p => lineAt script p.2) := by
  induction w generalizing s u with
  | nil => exact (Option.or_none).symm
  | cons c w ih =>
    have hlength : (u ++ [c]).length = u.length + 1 := List.length_append
    have hrest : (u ++ [c]) ++ w <+: script := by simpa using hscript
    have hline : (s.keep c).line = lineAt script (u ++ [c]).length := by
      have hc : u ++ [c] <+: script := (List.prefix_append _ w).trans hrest
      rw [line_keep, h, hlength]
      exact (lineAt_add hc).symm
    have hstart : (s.keep c).start = if s.start.isNone && !Text.isBlank c then some s.line else s.start := rfl
    show ((s.keep c).keepAll w).start = _
    rw [ih hrest hline, hstart, h, hlength, List.zipIdx_cons]
    cases s.start <;> cases hc : Text.isBlank c <;> simp [hc]

/-- The line that is noted for a statement, behind one more lexeme. -/
theorem start_absorb {l : Lexeme} (hscript : u ++ l.source <+: script) (h : s.line = lineAt script u.length)
    (hl : l ≠ .semicolon) :
    (s.absorb l).start =
      s.start.or (((l.placed u.length).find? (!Text.isBlank ·.1)).map fun p => lineAt script p.2) := by
  cases l with
  | lineComment w => exact (Option.or_none).symm
  | blockComment w =>
    obtain ⟨line, hline⟩ := skipAll_eq (s := s.leaveSpace) w
    have hspace : s.leaveSpace.start = s.start := by
      unfold leaveSpace
      split <;> rfl
    show (s.leaveSpace.skipAll w).start = s.start.or none
    rw [hline, Option.or_none]
    exact hspace
  | semicolon => exact absurd rfl hl
  | quoted w => exact start_keepAll hscript h
  | body w => exact start_keepAll hscript h
  | single c => exact start_keepAll hscript h

/-- **Behind the lexemes of a statement**: the position, the line that is noted, the text that is kept, and no other
    statement. -/
theorem reached_foldl_absorb {ls : List Lexeme} (hscript : u ++ ls.flatMap Lexeme.source <+: script)
    (hsemi : .semicolon ∉ ls) (hls : ∀ l ∈ ls, l.InLine) (h : s.Reached script u.length) :
    (ls.foldl Scan.absorb s).Reached script (u.length + width ls) ∧
    (ls.foldl Scan.absorb s).start =
      s.start.or ((firstPlaced? u.length ls).map fun p => lineAt script p.2) ∧
    (ls.foldl Scan.absorb s).kept.reverse = ls.foldl keepLexeme s.kept.reverse ∧
    (ls.foldl Scan.absorb s).ended = s.ended := by
  induction ls generalizing s u with
  | nil => exact ⟨h, (Option.or_none).symm, rfl, rfl⟩
  | cons l ls ih =>
    obtain ⟨hfirst, hrest⟩ := prefix_cons hscript
    have hl : l ≠ .semicolon := fun he => hsemi (he ▸ List.mem_cons_self)
    have hbehind : (s.absorb l).Reached script (u ++ l.source).length :=
      h.absorb hfirst (hls l List.mem_cons_self)
    obtain ⟨hreached, hnoted, hkept, hended⟩ :=
      ih hrest (fun hm => hsemi (List.mem_cons_of_mem l hm)) (fun x hx => hls x (List.mem_cons_of_mem l hx)) hbehind
    rw [List.length_append] at hreached hnoted
    rw [List.foldl_cons]
    refine ⟨?_, ?_, ?_, hended.trans (ended_absorb hl)⟩
    · rw [width_cons, ← Nat.add_assoc]
      exact hreached
    · rw [hnoted, start_absorb hfirst h.line hl, Option.or_assoc, firstPlaced?_cons, Option.map_or]
    · rw [hkept, kept_absorb h.noted hl, List.foldl_cons]

/-- The splitter has come to the position `i` and stands before a new statement. -/
structure Fresh (script : List Char) (i : Nat) (s : Scan) : Prop where
  /-- The position. -/
  reached : s.Reached script i
  /-- Nothing is kept yet. -/
  kept : s.kept = []
  /-- No line is noted yet. -/
  start : s.start = none

/-- Behind a semicolon. -/
theorem Reached.fresh_endStatement (h : s.Reached script u.length) (hscript : u ++ [';'] <+: script) :
    s.endStatement.Fresh script (u ++ [';']).length := by
  refine ⟨⟨?_, noted_endStatement⟩, rfl, rfl⟩
  rw [List.length_append, lineAt_add hscript, line_endStatement, h.line]
  rfl

/-- **One statement.**  When the lexemes of a statement are read and the statement ends, it is found with the lines of
    the place where it stands. -/
theorem ended_group {ls : List Lexeme} (hscript : u ++ ls.flatMap Lexeme.source <+: script) (hsemi : .semicolon ∉ ls)
    (hls : ∀ l ∈ ls, l.InLine) (h : s.Fresh script u.length) :
    (ls.foldl Scan.absorb s).endStatement.ended.reverse =
      s.ended.reverse ++ (placement? u.length ls).toList.map (Placement.fragment script) := by
  obtain ⟨hreached, hstart, hkept, hended⟩ := reached_foldl_absorb hscript hsemi hls h.reached
  generalize ls.foldl Scan.absorb s = t at hreached hstart hkept hended
  rw [h.start, Option.none_or] at hstart
  rw [h.kept] at hkept
  have htext : Text.strip t.kept.reverse = Text.strip (keptText ls) := congrArg Text.strip hkept
  have hhead := head?_strip_keptText u.length ls
  unfold endStatement placement?
  dsimp only
  rw [htext, hended, hstart, hreached.line]
  -- something is left of the statement exactly if a character was kept that is not blank
  cases hfirst : firstPlaced? u.length ls with
  | none =>
    rw [hfirst] at hhead
    have hnil : Text.strip (keptText ls) = [] := List.head?_eq_none_iff.mp hhead
    simp [hnil]
  | some p =>
    rw [hfirst] at hhead
    have hempty : (Text.strip (keptText ls)).isEmpty = false := by
      rw [List.isEmpty_eq_false_iff]
      intro hnil
      rw [hnil] at hhead
      cases hhead
    simp [hempty, Placement.fragment]

end Scan

/-! ## From one statement to all of them -/

/-- **Lexemes group by group.**  What holds of the lexemes of one statement, and of those of a statement with its
    semicolon before some others if it holds of these, holds of all lexemes. -/
theorem groups_induction {motive : List Lexeme → Prop} (last : ∀ ls, .semicolon ∉ ls → motive ls)
    (more : ∀ us vs, .semicolon ∉ us → motive vs → motive (us ++ .semicolon :: vs)) (ls : List Lexeme) : motive ls := by
  induction hn : ls.length using Nat.strong_induction_on generalizing ls with
  | _ n ih =>
    by_cases hmem : .semicolon ∈ ls
    · obtain ⟨us, vs, rfl, hus⟩ := List.eq_append_cons_of_mem hmem
      refine more us vs hus (ih vs.length ?_ vs rfl)
      rw [← hn, List.length_append, List.length_cons]
      omega
    · exact last ls hmem

theorem isSemicolon_eq_false {ls : List Lexeme} (h : .semicolon ∉ ls) : ∀ l ∈ ls, (l == Lexeme.semicolon) = false := by
  intro l hl
  rw [beq_eq_false_iff_ne]
  rintro rfl
  exact h hl

theorem placementsFrom_last {ls : List Lexeme} (h : .semicolon ∉ ls) (i : Nat) :
    placementsFrom i (ls.splitOnP (· == .semicolon)) = (placement? i ls).toList := by
  rw [List.splitOnP_eq_singleton (isSemicolon_eq_false h)]
  exact List.append_nil _

theorem placementsFrom_more {us : List Lexeme} (h : .semicolon ∉ us) (vs : List Lexeme) (i : Nat) :
    placementsFrom i ((us ++ .semicolon :: vs).splitOnP (· == .semicolon)) =
      (placement? i us).toList ++ placementsFrom (i + width us + 1) (vs.splitOnP (· == .semicolon)) := by
  rw [List.splitOnP_append_cons_of_forall_mem (isSemicolon_eq_false h) .semicolon (by rfl)]
  rfl

/-- The script up to and behind the semicolon of a statement. -/
theorem source_more (u : List Char) (us vs : List Lexeme) :
    u ++ (us ++ .semicolon :: vs).flatMap Lexeme.source =
      (u ++ us.flatMap Lexeme.source ++ [';']) ++ vs.flatMap Lexeme.source := by
  simp [Lexeme.source]

namespace Scan

/-- **All statements.**  From a state before a new statement on, the statements are found with the lines of the places
    where they stand. -/
theorem ended_foldl_absorb {s : Scan} {ls : List Lexeme} (hscript : u ++ ls.flatMap Lexeme.source <+: script)
    (hls : ∀ l ∈ ls, l.InLine) (h : s.Fresh script u.length) :
    (ls.foldl Scan.absorb s).endStatement.ended.reverse =
      s.ended.reverse ++
        (placementsFrom u.length (ls.splitOnP (· == .semicolon))).map (Placement.fragment script) := by
  induction ls using groups_induction generalizing s u with
  | last ls hsemi => rw [ended_group hscript hsemi hls h, placementsFrom_last hsemi]
  | more us vs hsemi ih =>
    rw [source_more] at hscript
    have hsemicolon : u ++ us.flatMap Lexeme.source ++ [';'] <+: script := (List.prefix_append _ _).trans hscript
    have hbefore : u ++ us.flatMap Lexeme.source <+: script := (List.prefix_append _ _).trans hsemicolon
    have hus : ∀ l ∈ us, l.InLine := fun l hl => hls l (List.mem_append_left _ hl)
    have hvs : ∀ l ∈ vs, l.InLine := fun l hl => hls l (List.mem_append_right _ (List.mem_cons_of_mem _ hl))
    -- the state behind the semicolon stands before the next statement
    obtain ⟨hreached, -⟩ := reached_foldl_absorb hbefore hsemi hus h.reached
    have hlength : (u ++ us.flatMap Lexeme.source).length = u.length + width us := List.length_append
    rw [← hlength] at hreached
    have hrest := ih hscript hvs (hreached.fresh_endStatement hsemicolon)
    rw [ended_group hbefore hsemi hus h, List.length_append, hlength] at hrest
    rw [placementsFrom_more hsemi, List.map_append, ← List.append_assoc, List.foldl_append]
    exact hrest

end Scan

/-! ## What stands where -/

/-- The place is one of the script: at its first position stands the first character of the text, which is not blank,
    and at its last a semicolon or the end of the script. -/
structure Placement.Fits (script : List Char) (p : Placement) : Prop where
  /-- The first character. -/
  first : ∃ c, script[p.first]? = some c ∧ p.text.head? = some c ∧ Text.isBlank c = false
  /-- The end. -/
  stop : script[p.stop]? = some ';' ∨ p.stop = script.length
  /-- The order of the two. -/
  lt : p.first < p.stop

/-- The place of one statement. -/
theorem fits_placement {ls : List Lexeme} {p : Placement} (hscript : u ++ ls.flatMap Lexeme.source <+: script)
    (hstop : script[u.length + width ls]? = some ';' ∨ u.length + width ls = script.length)
    (hp : p ∈ (placement? u.length ls).toList) :
    u.length ≤ p.first ∧ p.stop = u.length + width ls ∧ p.Fits script := by
  rw [Option.mem_toList] at hp
  obtain ⟨⟨c, j⟩, hfirst, rfl⟩ := Option.map_eq_some_iff.mp hp
  have hmem : (c, j) ∈ placed u.length ls := List.mem_of_find?_eq_some hfirst
  obtain ⟨hle, hlt, hget⟩ := mem_placed hscript hmem
  have hblank : Text.isBlank c = false := by simpa using List.find?_some hfirst
  have hhead := head?_strip_keptText u.length ls
  rw [hfirst] at hhead
  exact ⟨hle, rfl, ⟨c, hget, hhead, hblank⟩, hstop, hlt⟩

/-- **The places of all statements** are places of the script, one behind the other. -/
theorem fits_placementsFrom {ls : List Lexeme} (hscript : u ++ ls.flatMap Lexeme.source = script) :
    (∀ p ∈ placementsFrom u.length (ls.splitOnP (· == .semicolon)), u.length ≤ p.first ∧ p.Fits script) ∧
    (placementsFrom u.length (ls.splitOnP (· == .semicolon))).Pairwise fun p q => p.stop < q.first := by
  induction ls using groups_induction generalizing u with
  | last ls hsemi =>
    have hend : u.length + width ls = script.length := by
      rw [← hscript, List.length_append]
      rfl
    have hwhole : u ++ ls.flatMap Lexeme.source <+: script := ⟨[], (List.append_nil _).trans hscript⟩
    rw [placementsFrom_last hsemi]
    refine ⟨fun p hp => ?_, ?_⟩
    · obtain ⟨hle, -, hfits⟩ := fits_placement hwhole (.inr hend) hp
      exact ⟨hle, hfits⟩
    · cases placement? u.length ls <;> simp
  | more us vs hsemi ih =>
    rw [source_more] at hscript
    have hlength : (u ++ us.flatMap Lexeme.source ++ [';']).length = u.length + width us + 1 := by
      simp [width, Nat.add_assoc]
    have hsemicolon : script[u.length + width us]? = some ';' := by
      have hbefore : (u ++ us.flatMap Lexeme.source).length = u.length + width us := List.length_append
      rw [← hscript, ← hbefore]
      simp
    have hbefore : u ++ us.flatMap Lexeme.source <+: script := by
      rw [← hscript, List.append_assoc]
      exact List.prefix_append _ _
    obtain ⟨hfits, hordered⟩ := ih hscript
    rw [hlength] at hfits hordered
    rw [placementsFrom_more hsemi]
    refine ⟨fun p hp => ?_, ?_⟩
    · rcases List.mem_append.mp hp with hp | hp
      · obtain ⟨hle, -, hp⟩ := fits_placement hbefore (.inl hsemicolon) hp
        exact ⟨hle, hp⟩
      · obtain ⟨hle, hp⟩ := hfits p hp
        exact ⟨by omega, hp⟩
    · refine List.pairwise_append.mpr ⟨?_, hordered, fun p hp q hq => ?_⟩
      · cases placement? u.length us <;> simp
      · obtain ⟨-, hstop, -⟩ := fits_placement hbefore (.inl hsemicolon) hp
        obtain ⟨hle, -⟩ := hfits q hq
        omega

/-! ## The lines -/

/-- The splitter finds the statements with the lines of the places where they stand. -/
theorem split_eq_map_fragment (dialect : Option String) (script : String) :
    split dialect script =
      (placements (Rules.ofDialect dialect) script.toList).map (Placement.fragment script.toList) := by
  have hsource := flatMap_source_lexemes (Rules.ofDialect dialect) script.toList
  have hscript : [] ++ (lexemes (Rules.ofDialect dialect) script.toList).flatMap Lexeme.source <+: script.toList :=
    ⟨[], (List.append_nil _).trans hsource⟩
  have hfresh : Scan.initial.Fresh script.toList ([] : List Char).length := ⟨⟨rfl, rfl⟩, rfl, rfl⟩
  have hended := Scan.ended_foldl_absorb hscript (inLine_lexemes _ _) hfresh
  show Scan.run (Rules.ofDialect dialect) (Scan.initial.enter .plain) script.toList = _
  rw [Scan.run_eq_foldl_absorb]
  exact hended

/-- **The lines of the statements.**  In every dialect, the statements of a script have the lines of the places where
they stand: the first line of a statement is that of its first character that is kept and not blank, the last line that
of the semicolon that ends it, or of the end of the script.  These places stand in the script, one behind the other.  So
no statement ends before the line it begins on or behind the last line of the script, and none begins before the line
on which an earlier one ends. -/
theorem split_eq_placements (dialect : Option String) (script : String) :
    split dialect script =
      (placements (Rules.ofDialect dialect) script.toList).map (Placement.fragment script.toList) ∧
    (∀ p ∈ placements (Rules.ofDialect dialect) script.toList, p.Fits script.toList) ∧
    (placements (Rules.ofDialect dialect) script.toList).Pairwise (fun p q => p.stop < q.first) ∧
    (∀ f ∈ split dialect script, f.lines.first ≤ f.lines.last ∧ f.lines.last ≤ 1 + lineBreaks script) ∧
    (split dialect script).Pairwise fun f g => f.lines.last ≤ g.lines.first := by
  have hsplit := split_eq_map_fragment dialect script
  have hsource := flatMap_source_lexemes (Rules.ofDialect dialect) script.toList
  obtain ⟨hplaces, hordered⟩ := fits_placementsFrom (u := []) hsource
  have hfits : ∀ p ∈ placements (Rules.ofDialect dialect) script.toList, p.Fits script.toList :=
    fun p hp => (hplaces p hp).2
  refine ⟨hsplit, hfits, hordered, ?_, ?_⟩
  · intro f hf
    rw [hsplit] at hf
    obtain ⟨p, hp, rfl⟩ := List.mem_map.mp hf
    exact ⟨lineAt_mono (hfits p hp).lt.le, lineAt_le p.stop⟩
  · rw [hsplit, List.pairwise_map]
    exact hordered.imp fun hlt => lineAt_mono hlt.le

/-- A comment of two lines before a statement, one inside it, and a string over the end of a line. -/
theorem split_eq_placements_string :
    let script := "/* a\n */ USE -- b\n  shop;\nSELECT ';\n'"
    split none script = [⟨"USE \n  shop", ⟨2, 3⟩⟩, ⟨"SELECT ';\n'", ⟨4, 5⟩⟩] ∧
      ∃ p ∈ placements (Rules.ofDialect none) script.toList,
        p.fragment script.toList = ⟨"SELECT ';\n'", ⟨4, 5⟩⟩ ∧ p.Fits script.toList := by
  intro script
  obtain ⟨hsplit, hfits, -⟩ := split_eq_placements none script
  have hfound : split none script = [⟨"USE \n  shop", ⟨2, 3⟩⟩, ⟨"SELECT ';\n'", ⟨4, 5⟩⟩] := by decide +kernel
  have hmem : ⟨"SELECT ';\n'", ⟨4, 5⟩⟩ ∈ split none script := by simp [hfound]
  rw [hsplit] at hmem
  obtain ⟨p, hp, hfragment⟩ := List.mem_map.mp hmem
  exact ⟨hfound, p, hp, hfragment, hfits p hp⟩

end DumpSummary.Script
