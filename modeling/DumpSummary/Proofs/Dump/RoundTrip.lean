import DumpSummary.Proofs.Dump.Reading
import DumpSummary.Proofs.Dump.ShownTypes
import DumpSummary.Proofs.Dump.SplitScript

/-!
# A printed database, summarized

The script of a database goes through the whole program: it is split into fragments, each fragment is read as one
statement, each statement becomes a record, and the records are folded into a summary.  Each statement of the script
has one effect on a summary, and all effects together build the summary of the database.

## Contents

* `Line.effect`: what a statement of the script does to a summary;
* `fragmentRecords_line`, `records_lines`: the records of fragments have the effects of their statements;
* `foldl_effect_lines`: all effects together;
* `ReadsLines`, `readsLines_mysql`: readings that read each statement of the script as that statement;
* `summarizeDump_script`: **the script of a database has the database's summary.**
-/

namespace DumpSummary.Description

open Dump Record Script

/-! ## One statement -/

/-- What a statement of the script does to a summary. -/
def Line.effect (s : Summary) : Line → Summary
  | .use n => { s with database := some n.text }
  | .create t => s.declare t.name.text (t.columns.map ColumnSpec.column)
  | .fill t _ => s.addRows t.name.text t.rows.length

theorem Name.text_ne_empty (n : Name) : n.text ≠ "" := by
  intro h
  have hsmall := n.small
  rw [h] at hsmall
  exact absurd hsmall (by decide)

/-- The numbers in the columns of a table can be read. -/
theorem readable_items (t : TableSpec) : ∀ x ∈ (t.columns.map ColumnSpec.item).flatMap itemNumbers, Readable x := by
  intro x hx
  obtain ⟨item, hitem, hx⟩ := List.mem_flatMap.mp hx
  obtain ⟨c, _, rfl⟩ := List.mem_map.mp hitem
  exact readable_kind c.kind x hx

/-- A column is declared as the summary shows it. -/
theorem itemColumns_item (c : ColumnSpec) : itemColumns .mysql c.item = [c.column] := by
  show [Column.mk c.name.text (shownType .mysql (some c.kind.dataType))] = _
  rw [shownType_kind]
  rfl

/-- The columns of a table are declared as its summary shows them. -/
theorem itemColumns_items (t : TableSpec) :
    (t.columns.map ColumnSpec.item).flatMap (itemColumns .mysql) = t.columns.map ColumnSpec.column := by
  rw [List.flatMap_map]
  simp only [itemColumns_item]
  exact List.map_eq_flatMap.symm

/-- The creation of a table whose numbers can be read has a record, which declares the table with its columns. -/
theorem ofStatement_creation (table : Name) {items : List Sql.SchemaItem}
    (hitems : ∀ x ∈ items.flatMap itemNumbers, Readable x) :
    ∃ v, ofStatement .mysql (.create "TABLE" (some table.target) items) = .ok v
      ∧ ∀ s : Summary, s.after v = s.declare table.text (items.flatMap (itemColumns .mysql)) := by
  have hkind : IsTableKind "TABLE" := by decide
  have hrecord := ofStatement_createTable .mysql hkind (some table.target) items
  have hspec := items_spec .mysql items
  cases hm : items.mapM (ofSchemaItem .mysql) with
  | error e =>
    rw [hm] at hspec
    exact absurd hitems hspec
  | ok vs =>
    rw [hm] at hspec hrecord
    refine ⟨_, hrecord, fun s => ?_⟩
    rw [after_createTable, hspec.2]
    exact if_neg table.text_ne_empty

/-- **A statement** of the script has a record, which has the statement's effect. -/
theorem ofStatement_statement (l : Line) :
    ∃ v, ofStatement .mysql l.statement = .ok v ∧ ∀ s : Summary, s.after v = l.effect s := by
  cases l with
  | use n =>
    refine ⟨.record [("type", .text "use"), ("db", .text n.text)], rfl, fun s => ?_⟩
    rw [after_use, if_neg n.text_ne_empty]
    rfl
  | create t =>
    obtain ⟨v, hv, heffect⟩ := ofStatement_creation t.name (readable_items t)
    refine ⟨v, hv, fun s => ?_⟩
    rw [heffect, itemColumns_items]
    rfl
  | fill t _ =>
    refine ⟨_, rfl, fun s => ?_⟩
    have hafter := after_insert .mysql s (some t.name.target) (some (t.rows.map fun row => row.map valueExpr))
    refine hafter.trans ?_
    show (if t.name.text = "" then s else s.addRows t.name.text (t.rows.map _).length) = _
    rw [if_neg t.name.text_ne_empty, List.length_map]
    rfl

/-! ## All statements -/

section Reading

variable {r : Reading} (hconvert : r.convert = ofStatement .mysql)
include hconvert

/-- The fragment of a statement has one record, which has the statement's effect, if its text is read as the
statement. -/
theorem fragmentRecords_line {f : Fragment} {l : Line} (hparse : r.parse f.text = .ok [l.statement]) (strict : Bool) :
    ∃ v, r.fragmentRecords strict f = .ok [v] ∧ ∀ s : Summary, s.after v = l.effect s := by
  obtain ⟨v, hv, heffect⟩ := ofStatement_statement l
  rw [← hconvert] at hv
  refine ⟨withLines f.lines v, fragmentRecords_of_single hparse hv strict, fun s => ?_⟩
  rw [after_withLines]
  exact heffect s

/-- **The fragments of statements** have records, which have the effects of the statements in order. -/
theorem records_lines {fs : List Fragment} {ls : List Line}
    (h : fs.map Fragment.text = ls.map fun l => String.ofList l.text)
    (hparse : ∀ l ∈ ls, r.parse (String.ofList l.text) = .ok [l.statement]) (strict : Bool) :
    ∃ vs, r.records strict fs = .ok vs ∧ ∀ s : Summary, vs.foldl Summary.after s = ls.foldl Line.effect s := by
  induction ls generalizing fs with
  | nil =>
    obtain rfl := List.map_eq_nil_iff.mp h
    exact ⟨[], rfl, fun s => rfl⟩
  | cons l ls ih =>
    obtain ⟨f, rest, rfl, hf, hrest⟩ := List.map_eq_cons_iff.mp h
    obtain ⟨hl, hls⟩ := List.forall_mem_cons.mp hparse
    rw [← show f.text = String.ofList l.text from hf] at hl
    obtain ⟨v, hv, heffect⟩ := fragmentRecords_line hconvert hl strict
    obtain ⟨vs, hvs, heffects⟩ := ih hrest hls
    refine ⟨v :: vs, ?_, fun s => ?_⟩
    · rw [Reading.records, hv]
      dsimp only
      rw [hvs]
      rfl
    · rw [List.foldl_cons, List.foldl_cons, heffect]
      exact heffects (l.effect s)

end Reading

/-! ## All effects -/

/-- A new table is declared behind the others. -/
theorem declare_of_notMem {s : Summary} {n : String} (h : n ∉ s.names) (cs : List Column) :
    s.declare n cs = { s with tables := s.tables ++ [⟨n, cs, 0⟩] } :=
  if_neg fun hd => h (Summary.declares_iff.mp hd)

/-- Rows are added to the last table and to no other. -/
theorem addRows_append {ts : List Table} {n : String} (h : ∀ t ∈ ts, t.name ≠ n) (database : Option String)
    (cs : List Column) (k : Nat) :
    Summary.addRows ⟨database, ts ++ [⟨n, cs, 0⟩]⟩ n k = ⟨database, ts ++ [⟨n, cs, k⟩]⟩ := by
  have hothers : (ts.map fun t => if t.name = n then { t with rows := t.rows + k } else t) = ts := by
    have hid := List.map_congr_left (g := id) fun t ht =>
      (if_neg (h t ht) : (if t.name = n then { t with rows := t.rows + k } else t) = t)
    rw [hid, List.map_id]
  unfold Summary.addRows
  rw [List.map_append, hothers]
  simp

/-- **The statements of a table** put it behind the tables that are there. -/
theorem foldl_effect_table {s : Summary} {t : TableSpec} (h : t.name.text ∉ s.names) :
    t.lines.foldl Line.effect s = { s with tables := s.tables ++ [t.table] } := by
  have hothers : ∀ u ∈ s.tables, u.name ≠ t.name.text := fun u hu he => h (he ▸ List.mem_map_of_mem hu)
  unfold TableSpec.lines
  split
  · rename_i hrows
    show s.declare t.name.text (t.columns.map ColumnSpec.column) = _
    rw [declare_of_notMem h]
    simp [TableSpec.table, hrows]
  · show (s.declare t.name.text (t.columns.map ColumnSpec.column)).addRows t.name.text t.rows.length = _
    rw [declare_of_notMem h]
    exact addRows_append hothers s.database _ _

/-- **The statements of tables with names of their own** put them behind the tables that are there, in order. -/
theorem foldl_effect_tables {s : Summary} {ts : List TableSpec} (hnew : ∀ t ∈ ts, t.name.text ∉ s.names)
    (hdistinct : (ts.map fun t => t.name.text).Nodup) :
    (ts.flatMap TableSpec.lines).foldl Line.effect s = { s with tables := s.tables ++ ts.map TableSpec.table } := by
  induction ts generalizing s with
  | nil => simp
  | cons t ts ih =>
    obtain ⟨hfirst, hrest⟩ := List.nodup_cons.mp hdistinct
    rw [List.flatMap_cons, List.foldl_append, foldl_effect_table (hnew t List.mem_cons_self)]
    -- the names that are taken are now the old ones and the one of this table
    have hnames : ∀ u ∈ ts, u.name.text ∉ Summary.names { s with tables := s.tables ++ [t.table] } := by
      intro u hu hmem
      rw [Summary.names, List.map_append] at hmem
      rcases List.mem_append.mp hmem with hmem | hmem
      · exact hnew u (List.mem_cons_of_mem t hu) hmem
      · have he : u.name.text = t.name.text := List.mem_singleton.mp hmem
        have htaken : u.name.text ∈ ts.map fun t => t.name.text := List.mem_map_of_mem hu
        rw [he] at htaken
        exact hfirst htaken
    rw [ih hnames hrest]
    simp

/-- The statements of a database build its summary. -/
theorem foldl_effect_lines (db : Description) : db.lines.foldl Line.effect .empty = db.summary := by
  show (db.tables.flatMap TableSpec.lines).foldl Line.effect ⟨some db.database.text, []⟩ = _
  rw [foldl_effect_tables (fun t _ => List.not_mem_nil) db.distinct]
  rfl

/-! ## The whole way -/

/-- The reading reads each statement that is printed for the database as that statement. -/
def ReadsLines (db : Description) (r : Reading) : Prop :=
  ∀ l ∈ db.lines, r.parse (String.ofList l.text) = .ok [l.statement]

/-- The reading of MySQL does so if no name of the database is a word that may stand in its place. -/
theorem readsLines_mysql {db : Description} (h : ∀ l ∈ db.lines, l.Unmistakable) :
    db.ReadsLines (Reading.ofDialect .mysql) := fun l hl => parse_text (h l hl)

/-- The script of a database is summarized as the database by a reading that reads its statements as what they are. -/
theorem summarizeDump_of_readsLines {db : Description} {gap : String} (hgap : ∀ c ∈ gap.toList, Text.isBlank c = true)
    (strict : Bool) {r : Reading} (hconvert : r.convert = ofStatement .mysql) (hreads : db.ReadsLines r) :
    r.summarizeDump (some "mysql") strict (db.script gap) = .ok db.summary := by
  -- every fragment is read, so strict and lenient reading have the same records
  obtain ⟨vs, hvs, heffects⟩ := records_lines hconvert (map_text_split_script db hgap) hreads strict
  have hread : r.read (some "mysql") strict (db.script gap) = .ok vs := hvs
  unfold Reading.summarizeDump
  rw [hread]
  show Except.ok (summarize (.list vs)) = _
  rw [summarize_list, heffects, foldl_effect_lines]

/-- **The script of a database has the database's summary**, in strict and in lenient reading, whatever characters
the values of its rows hold.  This is so of every reading that reads each printed statement as that statement, and in
particular of the reading of MySQL where no name is a word that may stand in its place. -/
theorem summarizeDump_script (db : Description) {gap : String} (hgap : ∀ c ∈ gap.toList, Text.isBlank c = true)
    (strict : Bool) :
    (∀ r : Reading, r.convert = ofStatement .mysql → db.ReadsLines r →
      r.summarizeDump (some "mysql") strict (db.script gap) = .ok db.summary) ∧
    ((∀ l ∈ db.lines, l.Unmistakable) → summarizeDump (some "mysql") strict (db.script gap) = .ok db.summary) := by
  constructor
  · exact fun r hconvert hreads => summarizeDump_of_readsLines hgap strict hconvert hreads
  · intro hnames
    rw [summarizeDump_of_known (d := .mysql) rfl]
    exact summarizeDump_of_readsLines hgap strict rfl (readsLines_mysql hnames)

/-- A shop with one item, whose label holds what ends statements, quotes and comments elsewhere. -/
def shop : Description where
  database := ⟨"shop", by decide⟩
  tables := [{
    name := ⟨"item", by decide⟩
    columns := [⟨⟨"id", by decide⟩, .int⟩, ⟨⟨"label", by decide⟩, .varchar ⟨20, by decide, by decide⟩⟩]
    columns_ne_nil := by decide
    rows := [["1", "it's; -- a \\ /* label"]]
    fits := by decide }]
  distinct := by decide

/-- No name in the shop is a word that may stand in its place. -/
theorem unmistakable_shop : ∀ l ∈ shop.lines, l.Unmistakable := by decide

theorem summarizeDump_script_shop :
    (Reading.ofDialect .mysql).summarizeDump (some "mysql") false (shop.script " ") =
        .ok ⟨some "shop", [⟨"item", [⟨"id", "INT"⟩, ⟨"label", "VARCHAR(20)"⟩], 1⟩]⟩ ∧
      summarizeDump (some "mysql") true (shop.script "\n") =
        .ok ⟨some "shop", [⟨"item", [⟨"id", "INT"⟩, ⟨"label", "VARCHAR(20)"⟩], 1⟩]⟩ :=
  ⟨(summarizeDump_script shop (List.all_eq_true.mp (by decide)) false).1 _ rfl (readsLines_mysql unmistakable_shop),
    (summarizeDump_script shop (List.all_eq_true.mp (by decide)) true).2 unmistakable_shop⟩

end DumpSummary.Description
