import DumpSummary.Proofs.Dump.RoundTrip
import DumpSummary.Proofs.Record.Parameters
import DumpSummary.Proofs.Script.Apart

/-!
# Types with members

MySQL's `ENUM` and `SET` have strings for parameters, and a member may hold any character.  A table with such columns
goes through the whole program here, from its text to its summary.  The members are read and written again as they
were, so the shown type depends on the groups that the parentheses in them form: it is the word of the type exactly if
the members leave nothing behind when groups are deleted.

## Contents

* `MemberColumn`, `Entry`, `MemberTable`: tables with such columns;
* `scansAs_entry`, `verbatim_entry`, `reads_entry`, `parse_memberTable`: an entry, and a table, are read as they were
  written;
* `summarizeDump_of_memberTable`: **the summary** of a table;
* `render_members`, `typeTag_members_iff`: the tag of a type with members;
* `upper_eq_iff`, `shown_eq_word_iff`: **when the word of a type is shown**;
* `summarizeDump_memberTable`: the two together.
-/

namespace DumpSummary.Description

open Dump Record Script Sql

/-! ## Tables with members -/

/-- The types whose parameters are their members. -/
inductive MemberKind
  /-- One of the members. -/
  | enum
  /-- Some of the members. -/
  | set

/-- The word of the type. -/
def MemberKind.word : MemberKind → String
  | .enum => "ENUM"
  | .set => "SET"

/-- The kind of the type in its tree. -/
def MemberKind.type : MemberKind → TypeKind
  | .enum => .enum
  | .set => .plain "SET"

/-- A column with members. -/
structure MemberColumn where
  /-- Its name. -/
  name : Name
  /-- The kind of its type. -/
  kind : MemberKind
  /-- The members of its type. -/
  members : List String
  /-- There is a member. -/
  members_ne_nil : members ≠ []

namespace MemberColumn

/-- The column as it is written. -/
def text (c : MemberColumn) : List Char :=
  c.name.quoted ++
    ' ' :: (c.kind.word.toList ++ ('(' :: List.intercalate [',', ' '] (c.members.map quotedValue) ++ [')']))

/-- The tokens of the type. -/
def typeTokens (c : MemberColumn) : List Token :=
  .word c.kind.word c.kind.word :: (.sign "(" :: Parse.listTokens (c.members.map valueTokens) ++ [.sign ")"])

/-- The type as a tree. -/
def dataType (c : MemberColumn) : DataType := .builtin c.kind.type (c.members.map valueExpr)

/-- The type as a summary shows it. -/
def shown (c : MemberColumn) : String := shownType .mysql (some c.dataType)

/-- The parameters of the type. -/
def parameters (c : MemberColumn) : List Parameter := c.members.map Parameter.quoted

end MemberColumn

/-- A column of a table, with sizes or with members. -/
inductive Entry
  /-- A column whose type has sizes. -/
  | sized (c : ColumnSpec)
  /-- A column whose type has members. -/
  | members (c : MemberColumn)

namespace Entry

/-- The entry as it is written. -/
def text : Entry → List Char
  | .sized c => c.text
  | .members c => c.text

/-- The name of the column. -/
def name : Entry → Name
  | .sized c => c.name
  | .members c => c.name

/-- The tokens of the type. -/
def typeTokens : Entry → List Token
  | .sized c => c.kind.tokens
  | .members c => c.typeTokens

/-- The tokens of the entry. -/
def tokens (e : Entry) : List Token := .name e.name.text :: e.typeTokens

/-- The entry as a tree. -/
def item : Entry → SchemaItem
  | .sized c => c.item
  | .members c => .column ⟨c.name.text, some c.dataType⟩

/-- The column as a summary shows it. -/
def column : Entry → Column
  | .sized c => c.column
  | .members c => ⟨c.name.text, c.shown⟩

end Entry

/-- A table with such columns. -/
structure MemberTable where
  /-- Its name. -/
  name : Name
  /-- Its columns. -/
  entries : List Entry
  /-- There is a column. -/
  entries_ne_nil : entries ≠ []

/-- The text that creates the table. -/
def MemberTable.creation (t : MemberTable) : String := String.ofList (creationText t.name (t.entries.map Entry.text))

/-- The statement that creates the table. -/
def MemberTable.statement (t : MemberTable) : Statement := .create "TABLE" (some t.name.target) (t.entries.map Entry.item)

/-- The script that creates the table. -/
def MemberTable.script (t : MemberTable) : String := t.creation ++ ";"

/-! ## The text of an entry -/

theorem scansAs_members (members : List String) :
    ScansAs .mysql ('(' :: List.intercalate [',', ' '] (members.map quotedValue) ++ [')'])
      (.sign "(" :: Parse.listTokens (members.map valueTokens) ++ [.sign ")"]) := by
  have hspace : ∀ x ∈ [' '], Text.isBlank x = true := List.forall_mem_singleton.mpr (by decide)
  exact scansAs_parens (scansAs_intercalate [' '] hspace (forall₂_map members fun v _ => scansAs_quotedValue v))

/-- **An entry** is scanned as its tokens. -/
theorem scansAs_entry (e : Entry) : ScansAs .mysql e.text e.tokens := by
  cases e with
  | sized c => exact scansAs_column c
  | members c =>
    have hword : ScansAs .mysql c.kind.word.toList [.word c.kind.word c.kind.word] := by
      refine scansAs_keyword ?_
      cases c.kind <;> decide
    exact (scansAs_quoted c.name).spaced (hword.before (scansAs_members c.members) ⟨'(', _, rfl, by decide⟩)

/-- An entry is verbatim, whatever characters its members hold. -/
theorem verbatim_entry (e : Entry) : Verbatim mysqlRules e.text := by
  cases e with
  | sized c => exact verbatim_column c
  | members c =>
    have hspace : Verbatim mysqlRules [' '] := verbatim_of_all (by decide)
    have hword : Verbatim mysqlRules c.kind.word.toList := by
      refine verbatim_of_all ?_
      cases c.kind <;> decide
    have hmembers : Verbatim mysqlRules (List.intercalate [',', ' '] (c.members.map quotedValue)) := by
      refine verbatim_intercalate (verbatim_of_all (by decide)) fun w hw => ?_
      obtain ⟨v, _, rfl⟩ := List.mem_map.mp hw
      exact verbatim_quotedValue v
    exact (verbatim_quoted c.name).append (hspace.append (hword.append (verbatim_parens hmembers)))

/-! ## The tree of an entry -/

section Reading

open Grammar Parse

/-- **A member** is read back. -/
theorem reads_member (h : Grammar.Rules) (v : String) :
    ReadsItem .mysql (comparisonOf h) (valueTokens v) (valueExpr v) := by
  intro rest hrest
  cases hrest <;> exact (rfl)

/-- **A type with members** is read back. -/
theorem reads_type (h : Grammar.Rules) (c : MemberColumn) :
    ReadsItem .mysql (dataType h.next) c.typeTokens c.dataType := by
  intro rest hrest
  obtain ⟨n, k, members, hne⟩ := c
  have hmembers : List.Forall₂ (ReadsItem .mysql (comparisonOf h)) (members.map valueTokens) (members.map valueExpr) :=
    forall₂_map members fun v _ => reads_member h v
  have hparams := typeParams_reads hmembers (by simpa using hne) rest
  have hword : typeOfWord h.next (.members k.type) .mysql
        (.sign "(" :: (listTokens (members.map valueTokens) ++ .sign ")" :: rest))
      = .ok (some (.builtin k.type (members.map valueExpr)), rest) :=
    bind_ok (bind_ok (a := true) rfl hparams) rfl
  have htokens : MemberColumn.typeTokens ⟨n, k, members, hne⟩ ++ rest =
      .word k.word k.word :: .sign "(" :: (listTokens (members.map valueTokens) ++ .sign ")" :: rest) := by
    simp [MemberColumn.typeTokens]
  have hnamed : namedType h.next true .mysql
        (.word k.word k.word :: .sign "(" :: (listTokens (members.map valueTokens) ++ .sign ")" :: rest))
      = .ok (some (.builtin k.type (members.map valueExpr)), rest) := by
    cases k with
    | enum => exact bind_ok rfl (bind_ok (bind_ok rfl (bind_ok rfl (bind_ok rfl hword))) rfl)
    | set => exact bind_ok rfl (bind_ok (bind_ok rfl (bind_ok rfl (bind_ok rfl hword))) rfl)
  rw [htokens]
  refine bind_ok hnamed ?_
  -- neither an array nor brackets behind the members
  cases hrest <;> exact (rfl)

/-- **An entry** is read back. -/
theorem reads_entry (h : Grammar.Rules) (e : Entry) :
    ReadsItem .mysql (orElse (tableConstraint h.next.next) (columnEntry h.next.next)) e.tokens e.item := by
  cases e with
  | sized c => exact reads_column h.next c
  | members c => exact reads_typedColumn h c.name (reads_type h c)

/-- No entry has a semicolon among its tokens. -/
theorem semicolon_notMem_entry (e : Entry) : Token.sign ";" ∉ e.tokens := by
  cases e with
  | sized c => exact semicolon_notMem_column c
  | members c =>
    have hmembers : Token.sign ";" ∉ listTokens (c.members.map valueTokens) := by
      refine semicolon_notMem_listTokens fun item hitem => ?_
      obtain ⟨v, _, rfl⟩ := List.mem_map.mp hitem
      simp [valueTokens]
    simp [Entry.tokens, Entry.typeTokens, MemberColumn.typeTokens, hmembers]

/-- **The creation of the table** is read as its tree. -/
theorem parse_memberTable {t : MemberTable} (hname : t.name.Creatable) :
    (Reading.ofDialect .mysql).parse t.creation = .ok [t.statement] := by
  rw [parse_ofDialect]
  exact parse_creation hname t.entries_ne_nil scansAs_entry semicolon_notMem_entry reads_entry

end Reading

/-! ## The summary of a table -/

/-- No member is a number. -/
theorem typeNumbers_members (c : MemberColumn) : typeNumbers (some c.dataType) = [] := by
  show (c.members.map valueExpr).filterMap parameterNumber? = []
  rw [List.filterMap_map]
  exact List.filterMap_eq_nil_iff.mpr fun v _ => rfl

theorem readable_entries (t : MemberTable) :
    ∀ x ∈ (t.entries.map Entry.item).flatMap itemNumbers, Record.Readable x := by
  intro x hx
  obtain ⟨item, hitem, hx⟩ := List.mem_flatMap.mp hx
  obtain ⟨e, _, rfl⟩ := List.mem_map.mp hitem
  cases e with
  | sized c => exact readable_kind c.kind x hx
  | members c =>
    have hnone : itemNumbers (Entry.members c).item = [] := typeNumbers_members c
    rw [hnone] at hx
    cases hx

/-- The columns of the table are declared as a summary shows them. -/
theorem itemColumns_entries (t : MemberTable) :
    (t.entries.map Entry.item).flatMap (itemColumns .mysql) = t.entries.map Entry.column := by
  have hcolumn : ∀ e : Entry, itemColumns .mysql e.item = [e.column] := by
    intro e
    cases e with
    | sized c => exact itemColumns_item c
    | members c => rfl
  rw [List.flatMap_map]
  simp only [hcolumn]
  exact List.map_eq_flatMap.symm

/-- The script of a table is a single fragment. -/
theorem split_memberTable (t : MemberTable) :
    ∃ lines, split (some "mysql") t.script = [⟨t.creation, lines⟩] := by
  refine split_creation t.name fun w hw => ?_
  obtain ⟨e, _, rfl⟩ := List.mem_map.mp hw
  exact verbatim_entry e

/-- **The summary of a table with members**, in strict and in lenient reading, if the table is read as what it is. -/
theorem summarizeDump_of_memberTable {t : MemberTable} (strict : Bool) {r : Reading}
    (hconvert : r.convert = ofStatement .mysql) (hparse : r.parse t.creation = .ok [t.statement]) :
    r.summarizeDump (some "mysql") strict t.script = .ok ⟨none, [⟨t.name.text, t.entries.map Entry.column, 0⟩]⟩ := by
  obtain ⟨v, hv, heffect⟩ := ofStatement_creation t.name (readable_entries t)
  obtain ⟨lines, hsplit⟩ := split_memberTable t
  rw [← hconvert] at hv
  have hrecord : r.fragmentRecords strict ⟨t.creation, lines⟩ = .ok [withLines lines v] :=
    fragmentRecords_of_single (f := ⟨t.creation, lines⟩) hparse hv strict
  have hread : r.read (some "mysql") strict t.script = .ok [withLines lines v] := by
    show r.records strict (split (some "mysql") t.script) = _
    rw [hsplit, Reading.records, hrecord]
    rfl
  unfold Reading.summarizeDump
  rw [hread]
  show Except.ok (summarize (.list [withLines lines v])) = _
  rw [summarize_list, List.foldl_cons, List.foldl_nil, after_withLines, heffect, itemColumns_entries,
    declare_of_notMem List.not_mem_nil]
  rfl

/-! ## The type that is shown -/

/-- The type is written with its members for parameters. -/
theorem render_members (c : MemberColumn) :
    c.dataType.render .mysql = c.kind.word ++ parameterGroup .mysql c.parameters := by
  have hrendered : renderList .mysql (c.members.map valueExpr) = c.parameters.map (Parameter.text .mysql) := by
    unfold MemberColumn.parameters
    induction c.members with
    | nil => rfl
    | cons v members ih =>
      rw [List.map_cons, List.map_cons, List.map_cons, renderList, ih]
      rfl
  have hempty : (c.members.map valueExpr).isEmpty = false := by
    rw [List.isEmpty_eq_false_iff]
    simpa using c.members_ne_nil
  unfold MemberColumn.dataType DataType.render parameterGroup
  dsimp only
  rw [hrendered, hempty]
  cases c.kind <;> rfl

/-- The word of a type is made of capitals. -/
theorem isUpper_word (k : MemberKind) : ∀ x ∈ k.word.toList, x.isUpper = true := by
  cases k with
  | enum => exact List.all_eq_true.mp (show "ENUM".toList.all Char.isUpper = true by decide)
  | set => exact List.all_eq_true.mp (show "SET".toList.all Char.isUpper = true by decide)

theorem parens_notMem_word (k : MemberKind) : '(' ∉ k.word.toList ∧ ')' ∉ k.word.toList :=
  ⟨fun h => absurd (isUpper_word k _ h) (by decide), fun h => absurd (isUpper_word k _ h) (by decide)⟩

theorem isBlank_word (k : MemberKind) : ∀ x ∈ k.word.toList, Text.isBlank x = false :=
  fun x hx => isBlank_of_isUpper (isUpper_word k x hx)

theorem word_ne_empty (k : MemberKind) : k.word ≠ "" := by
  cases k <;> simp [MemberKind.word]

theorem toList_word_ne_nil (k : MemberKind) : k.word.toList ≠ [] :=
  fun h => word_ne_empty k (String.toList_eq_nil_iff.mp h)

/-- The word of a type is a tag. -/
theorem tagText_kindWord (k : MemberKind) : tagText k.word.toList = k.word.toList :=
  tagText_word (isBlank_word k) (parens_notMem_word k).1 (toList_word_ne_nil k)

/-- **The tag of a type with members** is its word exactly if the members leave nothing behind. -/
theorem typeTag_members_iff (c : MemberColumn) :
    typeTag .mysql c.dataType = c.kind.word ↔
      Vanishes c.kind.word.toList (parameterGroup .mysql c.parameters).toList :=
  typeTag_eq_iff (render_members c) (tagText_kindWord c.kind) (word_ne_empty c.kind) (parens_notMem_word c.kind)

/-! ## Capitals -/

/-- No character is lost in capitals. -/
theorem upperChar_ne_nil (x : Char) : Text.upperChar x ≠ [] := by
  have hspecial : Text.upperSpecial.all (fun p => !p.2.isEmpty) = true := by decide
  unfold Text.upperChar
  split
  · exact List.cons_ne_nil _ _
  split
  · exact List.cons_ne_nil _ _
  split
  · rename_i ns hlookup
    obtain ⟨before, behind, htable, -⟩ := List.lookup_eq_some_iff.mp hlookup
    have hmem : (x.toNat, ns) ∈ Text.upperSpecial := by
      rw [htable]
      exact List.mem_append_right _ List.mem_cons_self
    have hne := List.all_eq_true.mp hspecial _ hmem
    simpa using hne
  · exact List.cons_ne_nil _ _

/-- A text in capitals that begins with a word in capitals is the word exactly if the text is. -/
theorem upper_eq_iff {word tag : String} (hword : ∀ x ∈ word.toList, x.isUpper = true)
    (h : word.toList <+: tag.toList) : Text.upper tag = word ↔ tag = word := by
  obtain ⟨y, hy⟩ := h
  have hupper : word.toList.flatMap Text.upperChar = word.toList := by
    have hall := congrArg String.toList (upper_of_isUpper hword)
    rwa [Text.upper, String.toList_ofList, String.toList_ofList] at hall
  have hlist : (Text.upper tag).toList = word.toList ++ y.flatMap Text.upperChar := by
    rw [Text.upper, String.toList_ofList, ← hy, List.flatMap_append, hupper]
  have hrest : y.flatMap Text.upperChar = [] ↔ y = [] := by
    refine ⟨fun hnil => ?_, fun hnil => by rw [hnil]; rfl⟩
    cases y with
    | nil => rfl
    | cons x y => exact absurd (List.flatMap_eq_nil_iff.mp hnil x List.mem_cons_self) (upperChar_ne_nil x)
  rw [← String.toList_inj, ← String.toList_inj, hlist, ← hy, List.append_right_eq_self, List.append_right_eq_self]
  exact hrest

/-- A parenthesis stays in capitals. -/
theorem paren_mem_upper {tag : String} (h : '(' ∈ tag.toList ∨ ')' ∈ tag.toList) :
    '(' ∈ (Text.upper tag).toList ∨ ')' ∈ (Text.upper tag).toList := by
  rw [Text.upper, String.toList_ofList]
  exact h.imp (fun hmem => List.mem_flatMap.mpr ⟨'(', hmem, by decide⟩)
    (fun hmem => List.mem_flatMap.mpr ⟨')', hmem, by decide⟩)

/-- **The word of a type is shown** exactly if it is the tag. -/
theorem upper_typeTag_eq_iff (c : MemberColumn) :
    Text.upper (typeTag .mysql c.dataType) = c.kind.word ↔ typeTag .mysql c.dataType = c.kind.word := by
  have htag : (typeTag .mysql c.dataType).toList =
      tagText (c.kind.word.toList ++ (parameterGroup .mysql c.parameters).toList) := by
    have hne := tagText_ne_nil (tagText_kindWord c.kind) (toList_word_ne_nil c.kind) (parens_notMem_word c.kind)
      (parameterGroup .mysql c.parameters).toList
    unfold typeTag
    rw [render_members, String.toList_append, if_neg (by simpa using hne), String.toList_ofList]
  by_cases hpaired : Paired (parameterGroup .mysql c.parameters).toList
  · refine upper_eq_iff (isUpper_word c.kind) ?_
    rw [htag]
    exact prefix_tagText (isBlank_word c.kind) (toList_word_ne_nil c.kind) (parens_notMem_word c.kind) hpaired
  · -- a parenthesis is in the tag, so it is shown, and the word has none
    have hmem := paren_mem_tagText (mt (paired_append_iff (parens_notMem_word c.kind) _).mp hpaired)
    rw [← htag] at hmem
    have hword := parens_notMem_word c.kind
    constructor
    · intro he
      have hshown := paren_mem_upper hmem
      rw [he] at hshown
      exact (hshown.elim hword.1 hword.2).elim
    · intro he
      rw [he] at hmem
      exact (hmem.elim hword.1 hword.2).elim

/-- **When the word of a type is shown**: if the members leave nothing behind. -/
theorem shown_eq_word_iff (c : MemberColumn) :
    c.shown = c.kind.word ↔ Vanishes c.kind.word.toList (parameterGroup .mysql c.parameters).toList := by
  have hshown : c.shown = shownName .mysql c.dataType := by
    show shownName .mysql c.dataType ++ shownSizes (typeNumbers (some c.dataType)) = _
    rw [typeNumbers_members]
    exact String.append_empty
  rw [hshown, ← typeTag_members_iff, ← upper_typeTag_eq_iff, shownName]
  split
  · rename_i hempty
    -- a type of an unknown name is shown by none of the two words
    rw [hempty]
    cases c.kind <;> decide
  · exact Iff.rfl

/-! ## Tables with members, summarized -/

/-- The characters of the members. -/
def MemberColumn.data (c : MemberColumn) : List Char := c.members.flatMap String.toList

theorem flatMap_data (c : MemberColumn) : c.parameters.flatMap Parameter.data = c.data := by
  unfold MemberColumn.parameters MemberColumn.data
  rw [List.flatMap_map]
  rfl

/-- **Types with members and other parameters.**  The script of a table with members is summarized with all its columns,
in strict and in lenient reading, in every reading that reads its creation as what it is, and so in that of MySQL if the
name of the table is none of the words that may stand before it.  Its `ENUM` and `SET` columns are shown as such exactly if their members leave nothing
behind when groups are deleted: so they are if each parenthesis in the members has its partner there, and so they are
not if more of them are opened than closed or the other way.  The same holds of the tag of every type that is written,
in whatever dialect, as a name with numbers and strings for parameters. -/
theorem summarizeDump_memberTable (t : MemberTable) (strict : Bool) :
    (∀ r : Reading, r.convert = ofStatement .mysql → r.parse t.creation = .ok [t.statement] →
      r.summarizeDump (some "mysql") strict t.script = .ok ⟨none, [⟨t.name.text, t.entries.map Entry.column, 0⟩]⟩) ∧
    (t.name.Creatable →
      summarizeDump (some "mysql") strict t.script = .ok ⟨none, [⟨t.name.text, t.entries.map Entry.column, 0⟩]⟩) ∧
    (∀ c : MemberColumn,
      (c.shown = c.kind.word ↔ Vanishes c.kind.word.toList (parameterGroup .mysql c.parameters).toList) ∧
      (Paired c.data → c.shown = c.kind.word) ∧
      (c.data.count '(' ≠ c.data.count ')' → c.shown ≠ c.kind.word)) ∧
    (∀ (d : Dialect) (type : DataType) (name : String) (ps : List Parameter),
      type.render d = name ++ parameterGroup d ps → tagText name.toList = name.toList → name ≠ "" →
      '(' ∉ name.toList ∧ ')' ∉ name.toList →
      (typeTag d type = name ↔ Vanishes name.toList (parameterGroup d ps).toList) ∧
      (Paired (ps.flatMap Parameter.data) → typeTag d type = name) ∧
      ((ps.flatMap Parameter.data).count '(' ≠ (ps.flatMap Parameter.data).count ')' → typeTag d type ≠ name)) := by
  refine ⟨fun r hconvert hparse => summarizeDump_of_memberTable strict hconvert hparse, fun hname => ?_, fun c => ?_,
    fun d type name ps hrender hname hne hparens => ?_⟩
  · have hsummary : summarizeDump (some "mysql") strict t.script
        = (Reading.ofDialect .mysql).summarizeDump (some "mysql") strict t.script := summarizeDump_of_known rfl strict
    rw [hsummary]
    exact summarizeDump_of_memberTable strict rfl (parse_memberTable hname)
  · have hiff := shown_eq_word_iff c
    refine ⟨hiff, fun hpaired => hiff.mpr ?_, fun hcount hshown => hcount ?_⟩
    · rw [← flatMap_data] at hpaired
      exact vanishes_parameterGroup (tagText_kindWord c.kind) (parens_notMem_word c.kind).1 hpaired
    · rw [← flatMap_data]
      exact count_of_vanishes_parameterGroup (hiff.mp hshown)
  · have hiff := typeTag_eq_iff hrender hname hne hparens
    refine ⟨hiff, fun hpaired => hiff.mpr ?_, fun hcount htag => hcount ?_⟩
    · exact vanishes_parameterGroup hname hparens.1 hpaired
    · exact count_of_vanishes_parameterGroup (hiff.mp htag)

/-- Members that hold a group, a quote and a semicolon. -/
def mood : MemberColumn := ⟨⟨"mood", by decide⟩, .enum, ["fine (so)", "it's; so"], List.cons_ne_nil _ _⟩

/-- A member that closes what it has not opened. -/
def face : MemberColumn := ⟨⟨"face", by decide⟩, .set, [":)"], List.cons_ne_nil _ _⟩

/-- A table with both. -/
def moods : MemberTable where
  name := ⟨"moods", by decide⟩
  entries := [.sized ⟨⟨"day", by decide⟩, .int⟩, .members mood, .members face]
  entries_ne_nil := List.cons_ne_nil _ _

theorem summarizeDump_memberTable_moods :
    summarizeDump (some "mysql") true moods.script =
        .ok ⟨none, [⟨"moods", [⟨"day", "INT"⟩, ⟨"mood", "ENUM"⟩, ⟨"face", face.shown⟩], 0⟩]⟩ ∧
      face.shown ≠ "SET" ∧
      typeTag .oracle (.builtin .double [.number "10", .number "2"]) = "DOUBLE PRECISION" := by
  obtain ⟨-, hsummary, hmembers, htags⟩ := summarizeDump_memberTable moods true
  have hmood : mood.shown = "ENUM" := (hmembers mood).2.1 (by decide)
  have hface : face.shown ≠ "SET" := (hmembers face).2.2 (by decide)
  have htag := htags .oracle (.builtin .double [.number "10", .number "2"]) "DOUBLE PRECISION"
    [.number "10" (by decide), .number "2" (by decide)] (by decide) (by decide +kernel) (by decide) (by decide)
  refine ⟨?_, hface, htag.2.1 (by decide)⟩
  rw [hsummary (by decide), ← hmood]
  rfl

/-- MySQL takes the parenthesis for a character of the member; the group ends there. -/
theorem summarizeDump_smiley :
    summarizeDump (some "mysql") true "CREATE TABLE \x60t\x60 (\x60c\x60 ENUM(':)'))" =
        .ok ⟨none, [⟨"t", [⟨"c", "ENUM')"⟩], 0⟩]⟩ ∧
      summarizeDump (some "mysql") true "CREATE TABLE \x60t\x60 (\x60c\x60 ENUM(':)'))" ≠
        .ok ⟨none, [⟨"t", [⟨"c", "ENUM"⟩], 0⟩]⟩ := by
  decide +kernel

end DumpSummary.Description
