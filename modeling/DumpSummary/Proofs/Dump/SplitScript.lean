import DumpSummary.Proofs.Dump.Description
import DumpSummary.Proofs.Script.Apart

/-!
# The script of a database is split into its statements

Every statement of the script is verbatim for the splitter: its names stand between backticks, and its values between
quotes with whatever could end them doubled.  So the splitter finds exactly the statements, whatever characters the
values hold.

## Contents

* `verbatim_quoted`, `verbatim_quotedValue`, `verbatim_kind`, `verbatim_intercalate`: the parts of a statement;
* `verbatim_text`, `solid_text`, `split_creation`: a statement;
* `map_text_split_script`: **the script is split into its statements.**
-/

namespace DumpSummary.Description

open Script Script.Scan

/-! ## Parts of statements -/

/-- The rules of splitting for MySQL. -/
def mysqlRules : Rules := ⟨true, true, false⟩

theorem ofDialect_mysql : Rules.ofDialect (some "mysql") = mysqlRules := by decide

theorem verbatim_quoted (n : Name) : Verbatim mysqlRules n.quoted := verbatim_backticked n.backtick_notMem

theorem verbatim_quotedValue (v : String) : Verbatim mysqlRules (quotedValue v) := verbatim_literal v.toList

/-- Text of plain characters, which can be looked at. -/
theorem verbatim_of_all {w : List Char} (h : w.all (isPlain mysqlRules) = true) : Verbatim mysqlRules w :=
  verbatim_of_plain (List.all_eq_true.mp h)

/-- Verbatim texts with a verbatim separator between them. -/
theorem verbatim_intercalate {r : Rules} {sep : List Char} (hsep : Verbatim r sep) {ws : List (List Char)}
    (h : ∀ w ∈ ws, Verbatim r w) : Verbatim r (List.intercalate sep ws) := by
  induction ws with
  | nil => exact verbatim_nil
  | cons w ws ih =>
    have hw := h w List.mem_cons_self
    have hws := ih fun v hv => h v (List.mem_cons_of_mem w hv)
    cases ws with
    | nil => rwa [List.intercalate_singleton]
    | cons v ws =>
      rw [List.intercalate_cons_cons]
      exact (hw.append hsep).append hws

theorem verbatim_repr (n : Nat) : Verbatim mysqlRules (Nat.repr n).toList := by
  refine verbatim_of_plain fun c hc => ?_
  exact isPlain_of_class (by decide) (isDigit_of_mem_repr hc)

/-- A list in parentheses is verbatim. -/
theorem verbatim_parens {w : List Char} (h : Verbatim mysqlRules w) : Verbatim mysqlRules ('(' :: w ++ [')']) := by
  have hopen : Verbatim mysqlRules ['('] := verbatim_of_all (by decide)
  have hclose : Verbatim mysqlRules [')'] := verbatim_of_all (by decide)
  exact (hopen.append h).append hclose

/-- A type is verbatim. -/
theorem verbatim_kind (k : Kind) : Verbatim mysqlRules k.text.toList := by
  cases k with
  | int => exact verbatim_of_all (by decide)
  | varchar n =>
    have hword : Verbatim mysqlRules "VARCHAR".toList := verbatim_of_all (by decide)
    have hall := hword.append (verbatim_parens (verbatim_repr n.value))
    simpa [Kind.text, String.toList_append] using hall
  | decimal p s =>
    have hword : Verbatim mysqlRules "DECIMAL".toList := verbatim_of_all (by decide)
    have hcomma : Verbatim mysqlRules [','] := verbatim_of_all (by decide)
    have hall := hword.append (verbatim_parens (((verbatim_repr p.value).append hcomma).append (verbatim_repr s.value)))
    simpa [Kind.text, String.toList_append] using hall

/-! ## Statements -/

/-- A column is verbatim. -/
theorem verbatim_column (c : ColumnSpec) : Verbatim mysqlRules c.text := by
  have hspace : Verbatim mysqlRules [' '] := verbatim_of_all (by decide)
  exact (verbatim_quoted c.name).append (hspace.append (verbatim_kind c.kind))

/-- A row is verbatim. -/
theorem verbatim_row (row : List String) : Verbatim mysqlRules (rowText row) := by
  refine verbatim_parens (verbatim_intercalate (verbatim_of_all (by decide)) fun w hw => ?_)
  obtain ⟨v, _, rfl⟩ := List.mem_map.mp hw
  exact verbatim_quotedValue v

/-- The creation of a table is verbatim if its entries are. -/
theorem verbatim_creation (table : Name) {texts : List (List Char)} (h : ∀ w ∈ texts, Verbatim mysqlRules w) :
    Verbatim mysqlRules (creationText table texts) := by
  have hwords : Verbatim mysqlRules "CREATE TABLE ".toList := verbatim_of_all (by decide)
  have hspace : Verbatim mysqlRules [' '] := verbatim_of_all (by decide)
  have hcomma : Verbatim mysqlRules [',', ' '] := verbatim_of_all (by decide)
  have hentries := verbatim_parens (verbatim_intercalate hcomma h)
  exact (hwords.append (verbatim_quoted table)).append (hspace.append hentries)

/-- **A statement is verbatim**, whatever values it holds. -/
theorem verbatim_text (l : Line) : Verbatim mysqlRules l.text := by
  cases l with
  | use n =>
    have hword : Verbatim mysqlRules "USE ".toList := verbatim_of_all (by decide)
    exact hword.append (verbatim_quoted n)
  | create t =>
    refine verbatim_creation t.name fun w hw => ?_
    obtain ⟨c, _, rfl⟩ := List.mem_map.mp hw
    exact verbatim_column c
  | fill t _ =>
    have hwords : Verbatim mysqlRules "INSERT INTO ".toList := verbatim_of_all (by decide)
    have hvalues : Verbatim mysqlRules " VALUES ".toList := verbatim_of_all (by decide)
    have hrows : Verbatim mysqlRules (List.intercalate [','] (t.rows.map rowText)) := by
      refine verbatim_intercalate (verbatim_of_all (by decide)) fun w hw => ?_
      obtain ⟨row, _, rfl⟩ := List.mem_map.mp hw
      exact verbatim_row row
    exact (hwords.append (verbatim_quoted t.name)).append (hvalues.append hrows)

/-- A list ends as its last item does. -/
theorem getLast?_intercalate {sep : List Char} {e : Char} {ws : List (List Char)} (hne : ws ≠ [])
    (h : ∀ w ∈ ws, w.getLast? = some e) : (List.intercalate sep ws).getLast? = some e := by
  induction ws with
  | nil => exact absurd rfl hne
  | cons w ws ih =>
    cases ws with
    | nil =>
      rw [List.intercalate_singleton]
      exact h w List.mem_cons_self
    | cons v ws =>
      have hws := ih (List.cons_ne_nil v ws) fun u hu => h u (List.mem_cons_of_mem w hu)
      rw [List.intercalate_cons_cons, List.getLast?_append, hws]
      rfl

/-- A row ends with its closing parenthesis. -/
theorem getLast?_rowText (row : List String) : (rowText row).getLast? = some ')' := by
  unfold rowText
  rw [List.getLast?_concat]

/-- The creation of a table begins and ends with characters that are not blank. -/
theorem solid_creation (table : Name) (texts : List (List Char)) : Solid (creationText table texts) := by
  have hlast : (creationText table texts).getLast? = some ')' := by
    unfold creationText
    rw [List.getLast?_append, List.getLast?_concat]
    rfl
  exact ⟨⟨'C', rfl, by decide⟩, ⟨')', hlast, by decide⟩⟩

/-- The creation of a table, with its semicolon, is a single fragment if its entries are verbatim. -/
theorem split_creation (table : Name) {texts : List (List Char)} (h : ∀ w ∈ texts, Verbatim mysqlRules w) :
    ∃ lines, split (some "mysql") (String.ofList (creationText table texts) ++ ";")
      = [⟨String.ofList (creationText table texts), lines⟩] := by
  have hverbatim : Verbatim (Rules.ofDialect (some "mysql")) (String.ofList (creationText table texts)).toList := by
    rw [ofDialect_mysql, String.toList_ofList]
    exact verbatim_creation table h
  have hsolid : Solid (String.ofList (creationText table texts)).toList :=
    String.toList_ofList.symm ▸ solid_creation table texts
  have hsplit := split_verbatim hverbatim hsolid ""
  rw [String.append_empty] at hsplit
  exact ⟨_, hsplit⟩

/-- A statement begins and ends with characters that are not blank. -/
theorem solid_text (l : Line) : Solid l.text := by
  cases l with
  | use n =>
    have hlast : (Line.use n).text.getLast? = some '\x60' := by
      unfold Line.text Name.quoted
      rw [List.getLast?_append, List.getLast?_concat]
      rfl
    exact ⟨⟨'U', rfl, by decide⟩, ⟨'\x60', hlast, by decide⟩⟩
  | create t => exact solid_creation t.name (t.columns.map ColumnSpec.text)
  | fill t filled =>
    have hrows : (List.intercalate [','] (t.rows.map rowText)).getLast? = some ')' := by
      refine getLast?_intercalate (mt List.map_eq_nil_iff.mp filled) fun w hw => ?_
      obtain ⟨row, _, rfl⟩ := List.mem_map.mp hw
      exact getLast?_rowText row
    have hlast : (Line.fill t filled).text.getLast? = some ')' := by
      unfold Line.text
      rw [List.getLast?_append, List.getLast?_append, hrows]
      rfl
    exact ⟨⟨'I', rfl, by decide⟩, ⟨')', hlast, by decide⟩⟩

/-- **The script is split into its statements.** -/
theorem map_text_split_script (db : Description) {gap : String} (hgap : ∀ c ∈ gap.toList, Text.isBlank c = true) :
    (split (some "mysql") (db.script gap)).map Fragment.text = db.lines.map fun l => String.ofList l.text := by
  have hlines : ∀ w ∈ db.lines.map Line.text, Verbatim mysqlRules w ∧ Solid w := by
    intro w hw
    obtain ⟨l, _, rfl⟩ := List.mem_map.mp hw
    exact ⟨verbatim_text l, solid_text l⟩
  have hrun := map_text_run_statements hgap hlines Scan.initial (by simp [Scan.initial])
  have hscript : (db.script gap).toList = scriptOf gap.toList (db.lines.map Line.text) := String.toList_ofList
  unfold split
  rw [hscript, ofDialect_mysql]
  rw [List.map_map] at hrun
  exact hrun

end DumpSummary.Description
