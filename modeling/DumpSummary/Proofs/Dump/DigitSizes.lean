import DumpSummary.Proofs.Dump.Numbers
import DumpSummary.Proofs.Dump.RoundTrip

/-!
# Sizes of any number of digits

A size in a type may have any number of digits, but only numbers of at most 4300 digits are read.  So a single column
whose size is longer leaves its dump without records, in lenient reading as in strict reading.

Tables whose columns have sizes of any length go through the whole of MySQL's reading here, from the text of a dump to
the numbers in it; together with the account of where lenient reading stops this says exactly which of them are read.

## Contents

* `Numeral`, `SizedColumn`, `SizedTable`: tables with such sizes;
* `scansAs_sizedColumn`, `verbatim_sizedColumn`, `reads_sizedColumn`: a column is read as it was written;
* `parse_sizedTable`, `split_sizedTable`, `numbers_sizedTable`: a table is a fragment of one statement with these
  numbers;
* `exists_read_sizedTable_iff`: which of the tables are read;
* `lenient_stops_at_numbers`: **where lenient reading stops.**
-/

namespace DumpSummary.Description

open Dump Record Script Script.Scan Sql

/-! ## Tables with such sizes -/

/-- A size as it is written. -/
structure Numeral where
  /-- Its digits. -/
  text : String
  /-- They are digits, at least one. -/
  isNumeral : IsNumeral text

/-- A column of texts whose type has such sizes. -/
structure SizedColumn where
  /-- Its name. -/
  name : Name
  /-- The sizes of its type. -/
  sizes : List Numeral
  /-- There is a size. -/
  sizes_ne_nil : sizes ≠ []

namespace SizedColumn

/-- The column as it is written. -/
def text (c : SizedColumn) : List Char :=
  c.name.quoted ++
    ' ' :: ("VARCHAR".toList ++ ('(' :: List.intercalate [','] (c.sizes.map fun s => s.text.toList) ++ [')']))

/-- The tokens of the type. -/
def typeTokens (c : SizedColumn) : List Token :=
  .word "VARCHAR" "VARCHAR" :: (.sign "(" :: Parse.listTokens (c.sizes.map fun s => [.number s.text]) ++ [.sign ")"])

/-- The tokens of the column. -/
def tokens (c : SizedColumn) : List Token := .name c.name.text :: c.typeTokens

/-- The type as a tree. -/
def dataType (c : SizedColumn) : DataType := .builtin .varchar (c.sizes.map fun s => .number s.text)

/-- The column as a tree. -/
def item (c : SizedColumn) : SchemaItem := .column ⟨c.name.text, some c.dataType⟩

end SizedColumn

/-- A table with such columns. -/
structure SizedTable where
  /-- Its name. -/
  name : Name
  /-- Its columns. -/
  columns : List SizedColumn
  /-- There is a column. -/
  columns_ne_nil : columns ≠ []

/-- The text that creates the table. -/
def SizedTable.creation (t : SizedTable) : String :=
  String.ofList (creationText t.name (t.columns.map SizedColumn.text))

/-- The statement that creates the table. -/
def SizedTable.statement (t : SizedTable) : Statement :=
  .create "TABLE" (some t.name.target) (t.columns.map SizedColumn.item)

/-- The script that creates the table. -/
def SizedTable.script (t : SizedTable) : String := t.creation ++ ";"

/-! ## The text of a column -/

/-- **A size** is scanned as a number, however long it is. -/
theorem scansAs_numeral (s : Numeral) : ScansAs .mysql s.text.toList [.number s.text] := by
  obtain ⟨hne, hdigits⟩ := s.isNumeral
  obtain ⟨c, w, hw⟩ := List.exists_cons_of_ne_nil hne
  have hnumber := scansAs_number fun x hx => hdigits x (hw ▸ hx)
  rwa [← hw, String.ofList_toList] at hnumber

/-- A column is scanned as its tokens. -/
theorem scansAs_sizedColumn (c : SizedColumn) : ScansAs .mysql c.text c.tokens := by
  have hword : ScansAs .mysql "VARCHAR".toList [.word "VARCHAR" "VARCHAR"] := scansAs_keyword (by decide)
  have hsizes := scansAs_intercalate [] (by simp) (forall₂_map c.sizes fun s _ => scansAs_numeral s)
  exact (scansAs_quoted c.name).spaced (hword.before (scansAs_parens hsizes) ⟨'(', _, rfl, by decide⟩)

/-- A column is verbatim: no digit means anything to the splitter. -/
theorem verbatim_sizedColumn (c : SizedColumn) : Verbatim mysqlRules c.text := by
  have hspace : Verbatim mysqlRules [' '] := verbatim_of_all (by decide)
  have hword : Verbatim mysqlRules "VARCHAR".toList := verbatim_of_all (by decide)
  have hsizes : Verbatim mysqlRules (List.intercalate [','] (c.sizes.map fun s => s.text.toList)) := by
    refine verbatim_intercalate (verbatim_of_all (by decide)) fun w hw => ?_
    obtain ⟨s, _, rfl⟩ := List.mem_map.mp hw
    exact verbatim_of_plain fun x hx => isPlain_of_class (by decide) (s.isNumeral.digits x hx)
  exact (verbatim_quoted c.name).append (hspace.append (hword.append (verbatim_parens hsizes)))

/-! ## The tree of a column -/

section Reading

open Grammar Parse

/-- A size is read back. -/
theorem reads_size (s : Numeral) : ReadsItem .mysql typeSize [.number s.text] (.number s.text) := by
  intro rest hrest
  cases hrest <;> exact (rfl)

/-- **A type with sizes** is read back. -/
theorem reads_sizedType (h : Grammar.Rules) (c : SizedColumn) :
    ReadsItem .mysql (Grammar.dataType h.next) c.typeTokens c.dataType := by
  intro rest hrest
  have hsizes := forall₂_map c.sizes fun s _ => reads_size s
  have hparams := typeParams_reads hsizes (by simpa using c.sizes_ne_nil) rest
  have hsized : sizedType .varchar .mysql
        (.sign "(" :: (listTokens (c.sizes.map fun s => [.number s.text]) ++ .sign ")" :: rest))
      = .ok (some c.dataType, rest) := by
    refine bind_ok (bind_ok (a := true) rfl hparams) ?_
    -- no word for numbers without the negative ones behind the sizes
    cases hrest <;> exact (rfl)
  have htokens : c.typeTokens ++ rest = .word "VARCHAR" "VARCHAR" :: .sign "("
      :: (listTokens (c.sizes.map fun s => [.number s.text]) ++ .sign ")" :: rest) := by
    simp [SizedColumn.typeTokens]
  have hnamed : namedType h.next true .mysql (.word "VARCHAR" "VARCHAR" :: .sign "("
        :: (listTokens (c.sizes.map fun s => [.number s.text]) ++ .sign ")" :: rest))
      = .ok (some c.dataType, rest) :=
    bind_ok rfl (bind_ok (bind_ok rfl (bind_ok rfl (bind_ok rfl hsized))) rfl)
  rw [htokens]
  refine bind_ok hnamed ?_
  -- neither an array nor brackets behind the sizes
  cases hrest <;> exact (rfl)

/-- **A column** is read back. -/
theorem reads_sizedColumn (h : Grammar.Rules) (c : SizedColumn) :
    ReadsItem .mysql (orElse (tableConstraint h.next.next) (columnEntry h.next.next)) c.tokens c.item :=
  reads_typedColumn h c.name (reads_sizedType h c)

/-- No column has a semicolon among its tokens. -/
theorem semicolon_notMem_sizedColumn (c : SizedColumn) : Token.sign ";" ∉ c.tokens := by
  have hsizes : Token.sign ";" ∉ listTokens (c.sizes.map fun s => [Token.number s.text]) := by
    refine semicolon_notMem_listTokens fun item hitem => ?_
    obtain ⟨s, _, rfl⟩ := List.mem_map.mp hitem
    simp
  simp [SizedColumn.tokens, SizedColumn.typeTokens, hsizes]

/-- **The creation of the table** is read as its tree. -/
theorem parse_sizedTable {t : SizedTable} (hname : t.name.Creatable) :
    (Reading.ofDialect .mysql).parse t.creation = .ok [t.statement] := by
  rw [parse_ofDialect]
  exact parse_creation hname t.columns_ne_nil scansAs_sizedColumn semicolon_notMem_sizedColumn reads_sizedColumn

end Reading

/-! ## Which of the tables are read -/

/-- The script of a table is a single fragment. -/
theorem split_sizedTable (t : SizedTable) : ∃ lines, split (some "mysql") t.script = [⟨t.creation, lines⟩] := by
  refine split_creation t.name fun w hw => ?_
  obtain ⟨c, _, rfl⟩ := List.mem_map.mp hw
  exact verbatim_sizedColumn c

/-- The numbers of the table are the sizes of its columns. -/
theorem statementNumbers_sizedTable (t : SizedTable) :
    statementNumbers t.statement = t.columns.flatMap fun c => c.sizes.map Numeral.text := by
  have hcolumn : ∀ c : SizedColumn, itemNumbers c.item = c.sizes.map Numeral.text := by
    intro c
    show (c.sizes.map fun s => Expr.number s.text).filterMap parameterNumber? = _
    rw [List.filterMap_map, ← List.filterMap_eq_map]
    rfl
  rw [SizedTable.statement, statementNumbers, if_pos (by decide), List.flatMap_map]
  simp only [hcolumn]

section Readings

variable {r : Reading} {t : SizedTable} (hparse : r.parse t.creation = .ok [t.statement])
include hparse

/-- The numbers of the script are the sizes of the columns, if the table is read as what it is. -/
theorem dumpNumbers_sizedTable :
    r.dumpNumbers (some "mysql") t.script = t.columns.flatMap fun c => c.sizes.map Numeral.text := by
  obtain ⟨lines, hsplit⟩ := split_sizedTable t
  show (split (some "mysql") t.script).flatMap r.numbers = _
  rw [hsplit, List.flatMap_singleton]
  unfold Reading.numbers
  rw [hparse]
  show [t.statement].flatMap statementNumbers = _
  rw [List.flatMap_singleton, statementNumbers_sizedTable]

/-- **A table is read leniently** exactly if each of its sizes has at most 4300 digits. -/
theorem exists_read_sizedTable_iff (hconvert : r.convert = ofStatement .mysql) :
    (∃ vs, r.read (some "mysql") false t.script = .ok vs) ↔
      ∀ c ∈ t.columns, ∀ s ∈ c.sizes, s.text.toList.length ≤ 4300 := by
  rw [(stopsAt_read hconvert (some "mysql") t.script).records, dumpNumbers_sizedTable hparse]
  constructor
  · intro hall c hc s hs
    have hread := hall s.text (List.mem_flatMap.mpr ⟨c, hc, List.mem_map_of_mem hs⟩)
    exact (readable_numeral_iff s.isNumeral).mp hread
  · intro hall x hx
    obtain ⟨c, hc, hx⟩ := List.mem_flatMap.mp hx
    obtain ⟨s, hs, rfl⟩ := List.mem_map.mp hx
    exact (readable_numeral_iff s.isNumeral).mpr (hall c hc s hs)

end Readings

/-! ## Where lenient reading stops -/

/-- **Where lenient reading stops.**  The numbers among the parameters of a type have values exactly if each of them
that consists of digit signs writes a number, which a numeral does exactly if it has at most 4300 digits.  In every
reading whose statements are written as records in this way, lenient reading has records exactly if all numbers in the
types of the dump have values; otherwise it fails with the fault of the first that has none.  So it is under the name
of a dialect.  Each of these failures is met: a table whose columns have sizes of any length is read exactly if none of
them is longer than that, in every reading that reads its creation as what it is, and so in that of MySQL. -/
theorem lenient_stops_at_numbers (dialect : Option String) (dump : String) :
    (∀ t, (∃ vs, numericParams t = .ok vs) ↔ ∀ x ∈ typeNumbers (some t), Readable x) ∧
    (∀ x, IsNumeral x → (Readable x ↔ x.toList.length ≤ 4300)) ∧
    (∀ (r : Reading) (d : Dialect), r.convert = ofStatement d →
      StopsAt (r.dumpNumbers dialect dump) (r.read dialect false dump)) ∧
    (∀ d, Dialect.ofName? (effectiveDialect dialect dump) = some d →
      StopsAt ((Reading.ofDialect d).dumpNumbers dialect dump) (Dump.read dialect false dump)) ∧
    (∀ (r : Reading) (t : SizedTable), r.convert = ofStatement .mysql → r.parse t.creation = .ok [t.statement] →
      ((∃ vs, r.read (some "mysql") false t.script = .ok vs) ↔
        ∀ c ∈ t.columns, ∀ s ∈ c.sizes, s.text.toList.length ≤ 4300)) ∧
    ∀ t : SizedTable, t.name.Creatable →
      ((∃ vs, Dump.read (some "mysql") false t.script = .ok vs) ↔
        ∀ c ∈ t.columns, ∀ s ∈ c.sizes, s.text.toList.length ≤ 4300) := by
  refine ⟨fun t => ?type, fun x => readable_numeral_iff, fun r d hconvert => stopsAt_read hconvert dialect dump,
    fun d hd => ?dialect, fun r t hconvert hparse => exists_read_sizedTable_iff hparse hconvert, fun t hname => ?own⟩
  case type => rw [← failure?_eq_none_iff, failure?_numericParams, firstFault?_eq_none_iff]
  case dialect =>
    rw [read_of_known hd]
    exact stopsAt_read rfl dialect dump
  case own =>
    have hread : Dump.read (some "mysql") false t.script
        = (Reading.ofDialect .mysql).read (some "mysql") false t.script := read_of_known rfl false
    rw [hread]
    exact exists_read_sizedTable_iff (parse_sizedTable hname) rfl

/-- A table with one more size behind two that are short. -/
def thirdSize (s : Numeral) : SizedTable where
  name := ⟨"t", by decide⟩
  columns := [{
    name := ⟨"a", by decide⟩
    sizes := [⟨"10", by simp, List.all_eq_true.mp (by decide)⟩, ⟨"5", by simp, List.all_eq_true.mp (by decide)⟩, s]
    sizes_ne_nil := List.cons_ne_nil _ _ }]
  columns_ne_nil := List.cons_ne_nil _ _

theorem script_thirdSize (s : Numeral) :
    (thirdSize s).script = "CREATE TABLE \x60t\x60 (\x60a\x60 VARCHAR(10,5," ++ s.text ++ "));" := by
  have hcreation : (thirdSize s).creation.toList =
      "CREATE TABLE \x60t\x60 (\x60a\x60 VARCHAR(10,5,".toList ++ s.text.toList ++ "))".toList := by
    unfold SizedTable.creation creationText
    rw [String.toList_ofList]
    show "CREATE TABLE ".toList ++ ('\x60' :: "t".toList ++ ['\x60']) ++ (' ' :: '(' :: List.intercalate [',', ' ']
      [('\x60' :: "a".toList ++ ['\x60']) ++ ' ' :: ("VARCHAR".toList ++
        ('(' :: List.intercalate [','] ["10".toList, "5".toList, s.text.toList] ++ [')']))] ++ [')']) = _
    simp
  rw [← String.toList_inj, SizedTable.script, String.toList_append, hcreation]
  simp

/-- If that size has no value, nothing of the script has a record. -/
theorem read_thirdSize {s : Numeral} {e : Fault} (h : numberValue s.text = .error e) :
    numericParams (.builtin .varchar [.number "10", .number "5", .number s.text]) = .error e ∧
    Dump.read (some "mysql") false (thirdSize s).script = .error (.noRecord e) := by
  have hfirst : firstFault? ["10", "5", s.text] = some e := by
    have hlong : numberFault? s.text = some e := by rw [numberFault?, h]; rfl
    have hten : numberFault? "10" = none := by decide +kernel
    have hfive : numberFault? "5" = none := by decide +kernel
    rw [firstFault?, List.findSome?_cons, hten, List.findSome?_cons, hfive, List.findSome?_cons, hlong]
  constructor
  · rw [← failure?_eq_some_iff, failure?_numericParams]
    exact hfirst
  · have hname : (thirdSize s).name.Creatable := show Text.upper "t" ∉ wordsBeforeName by decide
    have hread : Dump.read (some "mysql") false (thirdSize s).script
        = (Reading.ofDialect .mysql).read (some "mysql") false (thirdSize s).script := read_of_known rfl false
    have hstops := stopsAt_read (r := Reading.ofDialect .mysql) (d := .mysql) rfl (some "mysql") (thirdSize s).script
    have hnumbers := dumpNumbers_sizedTable (r := Reading.ofDialect .mysql) (parse_sizedTable hname)
    rw [hread, ← failure?_eq_some_iff, hstops.fault, hnumbers]
    exact congrArg (Option.map Failure.noRecord) hfirst

/-- A size of one digit more than are read is scanned as a number, and the dump has no records, though it would not
be shown in them: a column has a length and a scale. -/
theorem read_longSize :
    Sql.scan? .mysql longSize = some [.number longSize] ∧
    numericParams (.builtin .varchar [.number "10", .number "5", .number longSize]) = .error (.tooManyDigits 4301) ∧
    Dump.read (some "mysql") false ("CREATE TABLE \x60t\x60 (\x60a\x60 VARCHAR(10,5," ++ longSize ++ "));") =
      .error (.noRecord (.tooManyDigits 4301)) := by
  have hnumeral : IsNumeral longSize :=
    ⟨List.ne_nil_of_length_pos (by rw [length_longSize]; decide), isDigit_longSize⟩
  have hscan := scan?_of_scans (scansAs_numeral ⟨longSize, hnumeral⟩).scans
  have hread := read_thirdSize (s := ⟨longSize, hnumeral⟩) numberValue_longSize
  rw [String.ofList_toList] at hscan
  rw [script_thirdSize] at hread
  exact ⟨hscan, hread⟩

end DumpSummary.Description
