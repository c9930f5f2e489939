import DumpSummary.Proofs.Script.Resplit
import DumpSummary.Proofs.Text.Parts
import DumpSummary.Summary.Report

/-!
# What a report tells

A report is read line by line.  Where no name holds a line break its lines can be told apart: the title has the
database behind a fixed beginning, the header of a table ends in its rows, and a row of columns is cut at the first bar
that no backslash precedes, since every bar of a name has one.  So a report tells everything about the tables, and the
database but for the difference between a missing name, an empty one and the title that stands for both.

## Contents

* `unlines`, `eq_of_unlines`: lines that hold no line breaks;
* `header_injective`, `row_injective`: the lines of a table;
* `tableLines`, `pageLines`, `report_unlines`: a report is its lines;
* `tableLines_append_injective`, `eq_of_flatMap_tableLines`: the tables behind one another;
* `Summary.OneLine`, `Summary.eq_of_report_eq`: **a report tells the tables and the title.**
-/

namespace DumpSummary

/-! ## Lines -/

/-- Lines, each with its line break. -/
def unlines (ls : List (List Char)) : List Char := ls.flatMap (· ++ ['\n'])

theorem unlines_nil : unlines [] = [] := rfl

theorem unlines_cons (x : List Char) (ls : List (List Char)) : unlines (x :: ls) = x ++ '\n' :: unlines ls := by
  simp [unlines]

theorem unlines_append (ls ms : List (List Char)) : unlines (ls ++ ms) = unlines ls ++ unlines ms :=
  List.flatMap_append

/-- **Lines can be told apart** where they hold no line breaks. -/
theorem eq_of_unlines {ls ms : List (List Char)} (hl : ∀ x ∈ ls, '\n' ∉ x) (hm : ∀ x ∈ ms, '\n' ∉ x)
    (h : unlines ls = unlines ms) : ls = ms := by
  induction ls generalizing ms with
  | nil =>
    cases ms with
    | nil => rfl
    | cons y ms =>
      rw [unlines_cons] at h
      exact absurd (congrArg List.length h) (by simp [unlines])
  | cons x ls ih =>
    cases ms with
    | nil =>
      rw [unlines_cons] at h
      exact absurd (congrArg List.length h) (by simp [unlines])
    | cons y ms =>
      rw [unlines_cons, unlines_cons] at h
      obtain ⟨rfl, hrest⟩ := eq_of_cut (hl x List.mem_cons_self) (hm y List.mem_cons_self) h
      have htail := ih (fun z hz => hl z (List.mem_cons_of_mem x hz)) (fun z hz => hm z (List.mem_cons_of_mem x hz))
        hrest
      exact congrArg (x :: ·) htail

namespace Report

/-! ## The lines of a table -/

/-- The header of a table, without its line break. -/
def header (name : List Char) (rows : Int) : List Char :=
  "### ".toList ++ (name ++ '\x20' :: '(' :: (Json.integerLiteral rows ++ " rows)".toList))

/-- **A header** tells the name and the rows, whatever the name ends in. -/
theorem header_injective {n n' : List Char} {k k' : Int} (h : header n k = header n' k') : n = n' ∧ k = k' := by
  have hname := List.append_cancel_left h
  have hregroup : ∀ (n : List Char) (k : Int),
      n ++ '\x20' :: '(' :: (Json.integerLiteral k ++ " rows)".toList)
        = ((n ++ ['\x20']) ++ '(' :: Json.integerLiteral k) ++ " rows)".toList := by
    intro n k
    simp
  rw [hregroup, hregroup] at hname
  -- the last parenthesis that is left opens the number
  have hparen : ∀ k, '(' ∉ Json.integerLiteral k := Json.notMem_integerLiteral (by decide)
  obtain ⟨hleft, hright⟩ := eq_of_cut_last (hparen k) (hparen k') (List.append_cancel_right hname)
  exact ⟨List.append_cancel_right hleft, Json.integerLiteral_injective hright⟩

/-- The characters of a cell. -/
def cellChars (cs : List Char) : List Char := cs.flatMap fun c => if c = '|' then ['\\', '|'] else [c]

theorem toList_cell (s : String) : (cell s).toList = cellChars s.toList := by
  rw [cell, String.toList_ofList, cellChars]

theorem cellChars_bar (cs : List Char) : cellChars ('|' :: cs) = '\\' :: '|' :: cellChars cs := rfl

theorem cellChars_cons {c : Char} (h : c ≠ '|') (cs : List Char) : cellChars (c :: cs) = c :: cellChars cs := by
  simp [cellChars, h]

/-- No cell begins with a bar. -/
theorem cellChars_append_ne_bar (cs us vs : List Char) : cellChars cs ++ '\x20' :: us ≠ '|' :: vs := by
  cases cs with
  | nil => simp [cellChars]
  | cons c cs =>
    by_cases hc : c = '|'
    · subst hc
      simp [cellChars_bar]
    · simp [cellChars_cons hc, hc]

/-- **A cell** ends at the first bar that no backslash precedes. -/
theorem cellChars_append_injective {cs ds us vs : List Char}
    (h : cellChars cs ++ '\x20' :: '|' :: us = cellChars ds ++ '\x20' :: '|' :: vs) : cs = ds ∧ us = vs := by
  -- a cell that has ended cannot go on in the other text, since a bar would come where none can
  have hended : ∀ {d : Char} {ds us vs : List Char},
      '\x20' :: '|' :: us ≠ cellChars (d :: ds) ++ '\x20' :: vs := by
    intro d ds us vs he
    by_cases hd : d = '|'
    · subst hd
      simp [cellChars_bar] at he
    · rw [cellChars_cons hd, List.cons_append] at he
      exact cellChars_append_ne_bar ds vs us (List.cons.inj he).2.symm
  induction cs generalizing ds with
  | nil =>
    cases ds with
    | nil => exact ⟨rfl, by simpa [cellChars] using h⟩
    | cons d ds => exact absurd h hended
  | cons c cs ih =>
    cases ds with
    | nil => exact absurd h.symm hended
    | cons d ds =>
      by_cases hc : c = '|' <;> by_cases hd : d = '|'
      · subst hc hd
        rw [cellChars_bar, cellChars_bar] at h
        have htail := ih (List.cons.inj (List.cons.inj h).2).2
        exact ⟨congrArg ('|' :: ·) htail.1, htail.2⟩
      · subst hc
        rw [cellChars_bar, cellChars_cons hd, List.cons_append] at h
        exact absurd (List.cons.inj h).2.symm (cellChars_append_ne_bar ds _ _)
      · subst hd
        rw [cellChars_bar, cellChars_cons hc, List.cons_append] at h
        exact absurd (List.cons.inj h).2 (cellChars_append_ne_bar cs _ _)
      · rw [cellChars_cons hc, cellChars_cons hd, List.cons_append, List.cons_append] at h
        have htail := ih (List.cons.inj h).2
        exact ⟨by rw [(List.cons.inj h).1, htail.1], htail.2⟩

/-- The row of a column. -/
def row (c : Column) : List Char :=
  '|' :: '\x20' :: (cellChars c.name.toList ++ '\x20' :: '|' :: '\x20' :: (cellChars c.type.toList ++ ['\x20', '|']))

/-- **A row** tells its column. -/
theorem row_injective {c d : Column} (h : row c = row d) : c = d := by
  obtain ⟨hname, hrest⟩ := cellChars_append_injective (List.cons.inj (List.cons.inj h).2).2
  obtain ⟨htype, -⟩ := cellChars_append_injective (List.cons.inj hrest).2
  cases c
  cases d
  rw [Column.mk.injEq]
  exact ⟨String.toList_injective hname, String.toList_injective htype⟩

/-! ## The lines of a report -/

/-- The lines of a table's section, its blank lines among them. -/
def tableLines (t : Table) : List (List Char) :=
  header t.name.toList t.rows :: [] ::
    if t.columns.isEmpty then ["_No columns declared._".toList, []]
    else "| Column Name | Data Type |".toList :: "|---|---|".toList :: (t.columns.map row ++ [[]])

/-- The lines before the number of rows. -/
def titleLines (s : Summary) : List (List Char) :=
  ["# Database Analysis Report for: ".toList ++ (databaseTitle s.database).toList, [], "## Summary Statistics".toList,
    [], "- **Total Tables:** ".toList ++ (Nat.repr s.totalTables).toList,
    "- **Total Columns:** ".toList ++ (Nat.repr s.totalColumns).toList]

/-- The lines of a report, its blank lines among them. -/
def pageLines (s : Summary) : List (List Char) :=
  titleLines s ++ ("- **Total Records:** ".toList ++ Json.integerLiteral s.totalRows) :: [] ::
    if s.tables.isEmpty then [] else "## Table Details".toList :: [] :: s.tables.flatMap tableLines

/-- The lines of a section as they are given, some of them with a line break at their end. -/
theorem unlines_tableSection (t : Table) : unlines ((tableSection t).map String.toList) = unlines (tableLines t) := by
  have hrow : ∀ c : Column, ("| " ++ cell c.name ++ " | " ++ cell c.type ++ " |").toList = row c := by
    intro c
    simp [row, toList_cell]
  have hheader : ("### " ++ t.name ++ " (" ++ Value.integerText t.rows ++ " rows)\n").toList
      = header t.name.toList t.rows ++ ['\n'] := by
    simp [header, Value.toList_integerText]
  unfold tableSection tableLines
  by_cases hempty : t.columns.isEmpty = true
  · simp [hempty, hheader, unlines_cons]
  · have hrows : (t.columns.map fun c => "| " ++ cell c.name ++ " | " ++ cell c.type ++ " |").map String.toList
        = t.columns.map row := by
      rw [List.map_map]
      exact List.map_congr_left fun c _ => hrow c
    rw [if_neg hempty, if_neg hempty]
    simp only [List.map_cons, List.map_append, List.map_nil, hheader, hrows, unlines_cons, unlines_append]
    simp [unlines]

/-- The lines as they are given and the lines of the page are the same text. -/
theorem unlines_lines (s : Summary) : unlines ((lines s).map String.toList) = unlines (pageLines s) := by
  have htables : unlines ((s.tables.flatMap tableSection).map String.toList) = unlines (s.tables.flatMap tableLines) := by
    induction s.tables with
    | nil => rfl
    | cons t ts ih =>
      rw [List.flatMap_cons, List.flatMap_cons, List.map_append, unlines_append, unlines_append, ih,
        unlines_tableSection]
  unfold lines pageLines
  by_cases hempty : s.tables.isEmpty = true
  · simp [hempty, titleLines, unlines_cons, Value.toList_integerText]
  · rw [if_neg hempty, if_neg hempty]
    simp only [List.map_append, List.map_cons, unlines_append, unlines_cons, htables]
    simp [titleLines, unlines_nil, unlines_cons, Value.toList_integerText]

/-- Texts with line breaks between them, and one at the end. -/
theorem intercalate_append_break {ls : List String} (h : ls ≠ []) :
    (String.intercalate "\n" ls).toList ++ ['\n'] = unlines (ls.map String.toList) := by
  induction ls with
  | nil => exact absurd rfl h
  | cons x ls ih =>
    cases ls with
    | nil => simp [unlines]
    | cons y ls =>
      have hrest := ih (List.cons_ne_nil y ls)
      rw [List.map_cons, unlines_cons, ← hrest, String.intercalate_cons_cons]
      simp

/-- A section ends in a blank line, and the line before it in no blank. -/
theorem exists_end_tableLines (t : Table) :
    ∃ front w c, tableLines t = front ++ [w ++ [c], []] ∧ Text.isBlank c = false := by
  unfold tableLines
  rcases List.eq_nil_or_concat t.columns with hnil | ⟨columns, c, hcolumns⟩
  · exact ⟨[header t.name.toList t.rows, []], "_No columns declared.".toList, '_', by simp [hnil], by decide⟩
  · refine ⟨header t.name.toList t.rows :: [] :: "| Column Name | Data Type |".toList :: "|---|---|".toList ::
      columns.map row, '|' :: '\x20' :: (cellChars c.name.toList ++ '\x20' :: '|' :: '\x20' ::
        (cellChars c.type.toList ++ ['\x20'])), '|', ?_, by decide⟩
    simp [hcolumns, row]

/-- So does a page. -/
theorem exists_end_pageLines (s : Summary) :
    ∃ front w c, pageLines s = front ++ [w ++ [c], []] ∧ Text.isBlank c = false := by
  unfold pageLines
  rcases List.eq_nil_or_concat s.tables with hnil | ⟨tables, t, htables⟩
  · -- without tables the total is zero, and its digit is the last character
    have htotal : Json.integerLiteral s.totalRows = ['0'] := by
      rw [Summary.totalRows, hnil]
      rfl
    exact ⟨titleLines s, "- **Total Records:** ".toList, '0', by simp [hnil, htotal], by decide⟩
  · obtain ⟨front, w, c, hend, hc⟩ := exists_end_tableLines t
    refine ⟨titleLines s ++ ("- **Total Records:** ".toList ++ Json.integerLiteral s.totalRows) :: [] ::
      "## Table Details".toList :: [] :: (tables.flatMap tableLines ++ front), w, c, ?_, hc⟩
    simp [htables, hend]

/-- **A report is its lines**: what is stripped from its end is a single line break. -/
theorem report_unlines (s : Summary) : s.report.toList ++ ['\n'] = unlines (pageLines s) := by
  obtain ⟨front, w, c, hend, hc⟩ := exists_end_pageLines s
  have hlines : lines s ≠ [] := by simp [lines]
  have hpage : unlines (pageLines s) = (unlines front ++ w ++ [c]) ++ ['\n', '\n'] := by
    rw [hend, unlines_append]
    simp [unlines]
  have htext : (String.intercalate "\n" (lines s)).toList = (unlines front ++ w ++ [c]) ++ ['\n'] := by
    have hbreak := intercalate_append_break hlines
    rw [unlines_lines, hpage] at hbreak
    exact List.append_cancel_right (by simpa using hbreak)
  have hstrip : Text.stripRight (String.intercalate "\n" (lines s)).toList = unlines front ++ w ++ [c] := by
    have hblank : Text.isBlank '\n' = true := by decide
    rw [htext, Text.stripRight]
    simp [hblank, hc]
  rw [Summary.report, String.toList_ofList, hstrip, hpage]
  simp

/-! ## Reading a report -/

/-- The characters of a cell are those of the text, and backslashes. -/
theorem mem_cellChars {c : Char} {cs : List Char} (h : c ∈ cellChars cs) : c ∈ cs ∨ c = '\\' := by
  obtain ⟨d, hd, hc⟩ := List.mem_flatMap.mp h
  split at hc
  · rename_i hbar
    rcases List.mem_pair.mp hc with rfl | rfl
    · exact .inr rfl
    · exact .inl (hbar ▸ hd)
  · rw [List.mem_singleton] at hc
    exact .inl (hc ▸ hd)

end Report

/-- No name of the summary holds a line break. -/
structure Summary.OneLine (s : Summary) : Prop where
  /-- Not the database's name. -/
  database : ∀ name, s.database = some name → '\n' ∉ name.toList
  /-- Not a table's. -/
  tables : ∀ t ∈ s.tables, '\n' ∉ t.name.toList
  /-- Neither a column's nor the text of its type. -/
  columns : ∀ t ∈ s.tables, ∀ c ∈ t.columns, '\n' ∉ c.name.toList ∧ '\n' ∉ c.type.toList

namespace Report

/-- Every line of such a summary's report is one. -/
theorem notMem_of_mem_pageLines {s : Summary} (h : s.OneLine) {x : List Char} (hx : x ∈ pageLines s) : '\n' ∉ x := by
  have hnumber : ∀ n, '\n' ∉ Json.integerLiteral n := Json.notMem_integerLiteral (by decide)
  have hrepr : ∀ n : Nat, '\n' ∉ Nat.toDigits 10 n := fun n hmem =>
    absurd (Json.isDigit_of_mem_toDigits hmem) (by decide)
  have htitle : '\n' ∉ (databaseTitle s.database).toList := by
    unfold databaseTitle
    split
    · rename_i name hname
      split
      · decide
      · exact h.database name hname
    · decide
  have hcell : ∀ w : String, '\n' ∉ w.toList → '\n' ∉ cellChars w.toList := by
    intro w hw hmem
    rcases mem_cellChars hmem with hin | hback
    · exact hw hin
    · exact absurd hback (by decide)
  have htable : ∀ t ∈ s.tables, ∀ y ∈ tableLines t, '\n' ∉ y := by
    intro t ht y hy
    have hhead : '\n' ∉ header t.name.toList t.rows := by
      simp [header, h.tables t ht, hnumber]
    unfold tableLines at hy
    split at hy
    · simp only [List.mem_cons, List.not_mem_nil, or_false] at hy
      rcases hy with rfl | rfl | rfl | rfl
      · exact hhead
      all_goals decide
    · simp only [List.mem_cons, List.mem_append, List.mem_map, List.not_mem_nil, or_false] at hy
      rcases hy with rfl | rfl | rfl | rfl | ⟨c, hc, rfl⟩ | rfl
      · exact hhead
      · decide
      · decide
      · decide
      · obtain ⟨hname, htype⟩ := h.columns t ht c hc
        simp [row, hcell _ hname, hcell _ htype]
      · decide
  unfold pageLines titleLines at hx
  simp only [List.mem_append, List.mem_cons, List.not_mem_nil, or_false] at hx
  rcases hx with (rfl | rfl | rfl | rfl | rfl | rfl) | rfl | rfl | hx
  · simp [htitle]
  · decide
  · decide
  · decide
  · simp [hrepr]
  · simp [hrepr]
  · simp [hnumber]
  · decide
  · split at hx
    · cases hx
    · simp only [List.mem_cons, List.mem_flatMap] at hx
      rcases hx with rfl | rfl | ⟨t, ht, hy⟩
      · decide
      · decide
      · exact htable t ht x hy

/-- **A section** tells its table, and where it ends. -/
theorem tableLines_append_injective {t u : Table} {ls ms : List (List Char)}
    (h : tableLines t ++ ls = tableLines u ++ ms) : t = u ∧ ls = ms := by
  unfold tableLines at h
  simp only [List.cons_append, List.cons.injEq, true_and] at h
  obtain ⟨hheader, hbody⟩ := h
  obtain ⟨hname, hrows⟩ := header_injective hheader
  suffices hcolumns : t.columns = u.columns ∧ ls = ms by
    refine ⟨?_, hcolumns.2⟩
    cases t
    cases u
    rw [Table.mk.injEq]
    exact ⟨String.toList_injective hname, hcolumns.1, hrows⟩
  by_cases ht : t.columns.isEmpty = true <;> by_cases hu : u.columns.isEmpty = true
  · rw [if_pos ht, if_pos hu] at hbody
    rw [List.isEmpty_iff] at ht hu
    exact ⟨ht.trans hu.symm, List.append_cancel_left hbody⟩
  · rw [if_pos ht, if_neg hu] at hbody
    exact absurd (List.cons.inj hbody).1 (by decide)
  · rw [if_neg ht, if_pos hu] at hbody
    exact absurd (List.cons.inj hbody).1 (by decide)
  · rw [if_neg ht, if_neg hu] at hbody
    -- the rows end at the first empty line
    simp only [List.cons_append, List.append_assoc, List.cons.injEq, true_and] at hbody
    have hnil : ∀ cs : List Column, [] ∉ cs.map row := by simp [row]
    obtain ⟨hmap, htail⟩ := eq_of_cut (hnil _) (hnil _) hbody
    exact ⟨List.map_inj_right (fun _ _ => row_injective) |>.mp hmap, htail⟩

/-- **The sections of tables** tell the tables. -/
theorem eq_of_flatMap_tableLines {ts us : List Table} (h : ts.flatMap tableLines = us.flatMap tableLines) :
    ts = us := by
  induction ts generalizing us with
  | nil =>
    cases us with
    | nil => rfl
    | cons u us => cases h
  | cons t ts ih =>
    cases us with
    | nil => cases h
    | cons u us =>
      obtain ⟨rfl, hrest⟩ := tableLines_append_injective (by simpa only [List.flatMap_cons] using h)
      exact congrArg (t :: ·) (ih hrest)

/-- The title names the database, if it has a name. -/
theorem databaseTitle_eq (database : Option String) :
    databaseTitle database = (database.filter (· ≠ "")).getD "Unknown Database" := by
  cases database with
  | none => rfl
  | some name => by_cases h : name = "" <;> simp [databaseTitle, Option.filter, h]

end Report

/-- **A report tells its summary**: where no name holds a line break, two summaries of one report have the same tables,
and the same database, where a missing or empty name stands for an unknown one. -/
theorem Summary.eq_of_report_eq {s t : Summary} (hs : s.OneLine) (ht : t.OneLine) (h : s.report = t.report) :
    s.tables = t.tables ∧
      (s.database.filter (· ≠ "")).getD "Unknown Database" = (t.database.filter (· ≠ "")).getD "Unknown Database" := by
  have hlines : Report.pageLines s = Report.pageLines t :=
    eq_of_unlines (fun _ => Report.notMem_of_mem_pageLines hs) (fun _ => Report.notMem_of_mem_pageLines ht)
      (by rw [← Report.report_unlines, ← Report.report_unlines, h])
  unfold Report.pageLines Report.titleLines at hlines
  simp only [List.cons_append, List.nil_append, List.cons.injEq, true_and] at hlines
  obtain ⟨htitle, -, -, -, hdetails⟩ := hlines
  have hdatabase : Report.databaseTitle s.database = Report.databaseTitle t.database :=
    String.toList_injective (List.append_cancel_left htitle)
  refine ⟨?_, by rwa [Report.databaseTitle_eq, Report.databaseTitle_eq] at hdatabase⟩
  by_cases hempty : s.tables.isEmpty = true <;> by_cases hempty' : t.tables.isEmpty = true
  · exact (List.isEmpty_iff.mp hempty).trans (List.isEmpty_iff.mp hempty').symm
  · simp [hempty, hempty'] at hdetails
  · simp [hempty, hempty'] at hdetails
  · rw [if_neg hempty, if_neg hempty'] at hdetails
    exact Report.eq_of_flatMap_tableLines (List.cons.inj (List.cons.inj hdetails).2).2

/-- Names of bars, backslashes and what ends a header, with no database's name and with an empty one. -/
theorem Summary.eq_of_report_eq_shop :
    Summary.report ⟨none, [⟨" ### a (3 rows)", [⟨"|---|---|", "\\|"⟩], 3⟩, ⟨"", [], -1⟩]⟩
      = Summary.report ⟨some "", [⟨" ### a (3 rows)", [⟨"|---|---|", "\\|"⟩], 3⟩, ⟨"", [], -1⟩]⟩ ∧
    ((none : Option String).filter (· ≠ "")).getD "Unknown Database"
      = ((some "").filter (· ≠ "")).getD "Unknown Database" := by
  have hnone : Summary.OneLine ⟨none, [⟨" ### a (3 rows)", [⟨"|---|---|", "\\|"⟩], 3⟩, ⟨"", [], -1⟩]⟩ :=
    ⟨by simp, by decide, by decide⟩
  have hempty : Summary.OneLine ⟨some "", [⟨" ### a (3 rows)", [⟨"|---|---|", "\\|"⟩], 3⟩, ⟨"", [], -1⟩]⟩ :=
    ⟨by simp, by decide, by decide⟩
  exact ⟨rfl, (Summary.eq_of_report_eq hnone hempty rfl).2⟩

end DumpSummary
