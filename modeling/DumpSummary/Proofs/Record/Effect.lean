import DumpSummary.Proofs.Summary.Step
import DumpSummary.Record.OfStatement
import Mathlib.Data.List.Forall2
import Mathlib.Data.List.TakeWhile

/-!
# Records mean what their statements mean

The record of a statement is written here and recognized there, with nothing but its shape in between.  The two
sides agree: what a record does to a summary is what its statement says, for every statement and every summary that
a run can reach.  A statement has no record exactly if one of its columns has a type parameter of digit signs that
write no number, or one of too many digits.

## Contents

* `Readable`, `shownNumber`: the type parameters that have a value, and how they are shown;
* `mapM_numberValue`, `columnDefinition_spec`, `ofSchemaItem_spec`, `items_spec`: parameters, types, columns and
  definitions, written as records and read back;
* `Effect`: what a statement does to a summary;
* `apply_ofStatement`: **the record of a statement has the statement's effect.**
-/

namespace DumpSummary.Record

open Sql

/-! ## Type parameters -/

/-- Digit signs, at least one. -/
def IsDigits (text : String) : Prop := text.toList ≠ [] ∧ ∀ c ∈ text.toList, Text.isDigit c = true

/-- Decimal digits, not too many to be read as a number. -/
def WritesNumber (text : String) : Prop :=
  (∀ c ∈ text.toList, (Text.digitValue? c).isSome = true) ∧ text.toList.length ≤ Text.maxDigits

/-- Whether a type parameter has a value: if it consists of digit signs, they have to write a number. -/
def Readable (text : String) : Prop := IsDigits text → WritesNumber text

/-- How a type parameter is shown: decimal digits as their number, anything else as it is written. -/
def shownNumber (text : String) : String :=
  match Text.integer? text.toList with
  | some n => Nat.repr n
  | none => text

/-- Reading digits on from a number. -/
theorem foldl_digits_isSome (cs : List Char) (acc : Option Nat) :
    (cs.foldl (fun n c => do return 10 * (← n) + (← Text.digitValue? c)) acc).isSome = true ↔
      acc.isSome = true ∧ ∀ c ∈ cs, (Text.digitValue? c).isSome = true := by
  induction cs generalizing acc with
  | nil => simp
  | cons c cs ih =>
    rw [List.foldl_cons, ih]
    cases acc <;> cases h : Text.digitValue? c <;> simp [h]

/-- A text writes a number exactly if it is made of decimal digits. -/
theorem integer?_isSome_iff {cs : List Char} :
    (Text.integer? cs).isSome = true ↔ cs ≠ [] ∧ ∀ c ∈ cs, (Text.digitValue? c).isSome = true := by
  unfold Text.integer?
  cases cs with
  | nil => simp
  | cons c cs =>
    rw [if_neg (by simp), foldl_digits_isSome]
    simp

theorem isDigit_of_digitValue? {c : Char} (h : (Text.digitValue? c).isSome = true) : Text.isDigit c = true := by
  simp [Text.isDigit, h]

/-- The test by which texts that are no digits are passed over. -/
theorem digits_test_eq_false_iff {text : String} :
    (text.toList.isEmpty || !text.toList.all Text.isDigit) = false ↔ IsDigits text := by
  simp only [Bool.or_eq_false_iff, List.isEmpty_eq_false_iff, Bool.not_eq_false', List.all_eq_true]
  rfl

/-- A value that stands for a type parameter. -/
def Shows (text : String) (v : Value) : Prop := v ≠ .null ∧ v.parameter = shownNumber text

/-- A parameter that has a value is shown as it should be. -/
theorem numberValue_of_readable {text : String} (h : Readable text) :
    ∃ v, numberValue text = .ok v ∧ Shows text v := by
  unfold numberValue
  by_cases hd : IsDigits text
  · -- all digits are decimal, so the leading decimal ones are the whole text
    obtain ⟨hdec, hlen⟩ := h hd
    obtain ⟨n, hn⟩ := Option.isSome_iff_exists.mp (integer?_isSome_iff.mpr ⟨hd.1, hdec⟩)
    have hall : text.toList.takeWhile (fun c => (Text.digitValue? c).isSome) = text.toList :=
      List.takeWhile_eq_self_iff.mpr hdec
    have hcond := digits_test_eq_false_iff.mpr hd
    refine ⟨.int n, ?_, by simp, ?_⟩
    · simp only [hcond, hall, Bool.false_eq_true, if_false, if_neg (Nat.not_lt.mpr hlen), hn]
    · simp [shownNumber, hn, Value.parameter, Value.plain, Value.quoted, Value.integerText]
  · -- it is no run of digits, so it is taken as it is and no number is read from it either
    have hcond : (text.toList.isEmpty || !text.toList.all Text.isDigit) = true := by
      rw [← Bool.not_eq_false, digits_test_eq_false_iff]
      exact hd
    have hnone : Text.integer? text.toList = none := by
      rw [← Option.not_isSome_iff_eq_none, integer?_isSome_iff]
      exact fun hi => hd ⟨hi.1, fun c hc => isDigit_of_digitValue? (hi.2 c hc)⟩
    exact ⟨.text text, by simp [hcond], by simp, by simp [shownNumber, hnone, Value.parameter, Value.plain]⟩

/-- Decimal digits of which there are too many have no value, and the fault says how many they are. -/
theorem numberValue_of_long {text : String} (hdigits : ∀ c ∈ text.toList, (Text.digitValue? c).isSome = true)
    (hlong : Text.maxDigits < text.toList.length) :
    numberValue text = .error (.tooManyDigits text.toList.length) := by
  have hne : text.toList ≠ [] := by
    intro hnil
    rw [hnil] at hlong
    exact absurd hlong (Nat.not_lt_zero _)
  have hcond := digits_test_eq_false_iff.mpr ⟨hne, fun c hc => isDigit_of_digitValue? (hdigits c hc)⟩
  have hall : text.toList.takeWhile (fun c => (Text.digitValue? c).isSome) = text.toList :=
    List.takeWhile_eq_self_iff.mpr hdigits
  unfold numberValue
  simp only [hcond, hall, Bool.false_eq_true, if_false, if_pos hlong]

/-- A parameter that has no value makes the conversion fail. -/
theorem numberValue_of_not_readable {text : String} (h : ¬ Readable text) :
    ∃ e, numberValue text = .error e := by
  obtain ⟨hd, hw⟩ := Classical.not_imp.mp h
  have hcond := digits_test_eq_false_iff.mpr hd
  unfold numberValue
  simp only [hcond, Bool.false_eq_true, if_false]
  split
  · exact ⟨_, rfl⟩
  · rename_i hlead
    split
    · -- a number was read, so all digits are decimal and the leading ones are all there are
      rename_i n hn
      have hdec := (integer?_isSome_iff.mp (by rw [hn]; rfl)).2
      have hall : text.toList.takeWhile (fun c => (Text.digitValue? c).isSome) = text.toList :=
        List.takeWhile_eq_self_iff.mpr hdec
      rw [hall] at hlead
      exact absurd ⟨hdec, Nat.not_lt.mp hlead⟩ hw
    · exact ⟨_, rfl⟩

/-! ## The types of columns -/

/-- The numbers among the parameters of a declared type. -/
def typeNumbers : Option DataType → List String
  | none => []
  | some t => (typeParameters t).filterMap parameterNumber?

/-- The sizes behind a type's name: the first two numbers. -/
def shownSizes : List String → String
  | [] => ""
  | [p] => "(" ++ shownNumber p ++ ")"
  | p :: q :: _ => "(" ++ shownNumber p ++ "," ++ shownNumber q ++ ")"

/-- The upper-case name of a type; a type whose name is empty is not known. -/
def shownName (d : Dialect) (t : DataType) : String :=
  if Text.upper (typeTag d t) = "" then unknown else Text.upper (typeTag d t)

/-- How the type of a column is shown. -/
def shownType (d : Dialect) : Option DataType → String
  | none => unknown
  | some t => shownName d t ++ shownSizes (typeNumbers (some t))

/-- Numbers are converted all or not at all, and then each is shown as it should be. -/
theorem mapM_numberValue (texts : List String) :
    match texts.mapM numberValue with
    | .ok vs => (∀ x ∈ texts, Readable x) ∧ List.Forall₂ Shows texts vs
    | .error _ => ¬ ∀ x ∈ texts, Readable x := by
  induction texts with
  | nil => exact ⟨by simp, .nil⟩
  | cons x xs ih =>
    rw [List.mapM_cons]
    by_cases hx : Readable x
    · obtain ⟨v, hv, hs⟩ := numberValue_of_readable hx
      rw [hv]
      cases hm : xs.mapM numberValue with
      | ok vs =>
        rw [hm] at ih
        exact ⟨List.forall_mem_cons.mpr ⟨hx, ih.1⟩, .cons hs ih.2⟩
      | error e =>
        rw [hm] at ih
        exact fun hall => ih (List.forall_mem_cons.mp hall).2
    · obtain ⟨e, he⟩ := numberValue_of_not_readable hx
      rw [he]
      exact fun hall => hx (List.forall_mem_cons.mp hall).1

/-- A field that is there is not looked for further in. -/
theorem outerOrNested_of_ne_null {definition v : Value} {key : String} (h : definition.field key = v)
    (hv : v ≠ .null) : ColumnType.outerOrNested definition key = v := by
  unfold ColumnType.outerOrNested
  rw [h]
  split
  · exact absurd rfl hv
  · rfl

/-- A type with one size. -/
theorem text_length {tag : String} {l : Value} (hl : l ≠ .null) :
    (DeclaredType.mk (some tag) l .null).text
      = (if tag = "" then unknown else tag) ++ "(" ++ l.parameter ++ ")" := by
  unfold DeclaredType.text
  dsimp only
  split
  · exact absurd rfl hl
  · rfl
  · rename_i hnull
    exact (hnull rfl).elim

/-- A type with two sizes. -/
theorem text_length_scale {tag : String} {l m : Value} (hl : l ≠ .null) (hm : m ≠ .null) :
    (DeclaredType.mk (some tag) l m).text
      = (if tag = "" then unknown else tag) ++ "(" ++ l.parameter ++ "," ++ m.parameter ++ ")" := by
  unfold DeclaredType.text
  dsimp only
  split
  · exact absurd rfl hl
  · exact absurd rfl hm
  · rfl

/-- The fields that hold the sizes of a type. -/
def sizeFields : List Value → List (String × Value)
  | [] => []
  | [length] => [("length", length)]
  | length :: scale :: _ => [("length", length), ("scale", scale)]

/-- A type read back from its name and sizes. -/
theorem text_ofDefinition_sizes {tag : String} {texts : List String} {vs : List Value}
    (h : List.Forall₂ Shows texts vs) :
    (ColumnType.ofDefinition (.record (("dataType", .text tag) :: sizeFields vs))).text
      = (if Text.upper tag = "" then unknown else Text.upper tag) ++ shownSizes texts := by
  show (DeclaredType.mk (some (Text.upper tag)) _ _).text = _
  cases h with
  | nil => simp [sizeFields, ColumnType.outerOrNested, DeclaredType.text, shownSizes, Value.field, List.lookup_cons]
  | @cons p v ps vs hp hrest =>
    have hlength :
        ColumnType.outerOrNested (.record (("dataType", .text tag) :: sizeFields (v :: vs))) "length" = v := by
      refine outerOrNested_of_ne_null ?_ hp.1
      cases vs <;> rfl
    cases hrest with
    | nil =>
      rw [hlength]
      show (DeclaredType.mk (some (Text.upper tag)) v .null).text = _
      rw [text_length hp.1, hp.2, String.append_assoc, String.append_assoc]
      rfl
    | @cons q w qs ws hq _ =>
      have hscale : ColumnType.outerOrNested (.record (("dataType", .text tag) :: sizeFields (v :: w :: ws))) "scale"
          = w := outerOrNested_of_ne_null rfl hq.1
      rw [hlength, hscale, text_length_scale hp.1 hq.1, hp.2, hq.2]
      simp only [shownSizes, String.append_assoc]

/-- **A column's type** survives the record: it is shown as declared, and it is missing from the record only if a
parameter has no value. -/
theorem columnDefinition_spec (d : Dialect) (type : Option DataType) :
    match columnDefinition d type with
    | .ok v => (∀ x ∈ typeNumbers type, Readable x) ∧ (ColumnType.ofDefinition v).text = shownType d type
    | .error _ => ¬ ∀ x ∈ typeNumbers type, Readable x := by
  cases type with
  | none => exact ⟨by simp [typeNumbers], rfl⟩
  | some t =>
    have hspec := mapM_numberValue (typeNumbers (some t))
    have hdef : columnDefinition d (some t) = ((typeNumbers (some t)).mapM numberValue).bind fun vs =>
        .ok (.record (("dataType", .text (typeTag d t)) :: sizeFields vs)) := by
      unfold columnDefinition numericParams typeNumbers sizeFields
      rfl
    rw [hdef]
    cases hm : (typeNumbers (some t)).mapM numberValue with
    | ok vs =>
      rw [hm] at hspec
      exact ⟨hspec.1, text_ofDefinition_sizes hspec.2⟩
    | error e =>
      rw [hm] at hspec
      exact hspec

/-! ## The entries of a definition -/

/-- The numbers among the parameters of an entry. -/
def itemNumbers : SchemaItem → List String
  | .column c => typeNumbers c.type
  | .constraint _ _ => []

/-- The column that an entry declares, if it is one. -/
def itemColumns (d : Dialect) : SchemaItem → List Column
  | .column c => [⟨c.name, shownType d c.type⟩]
  | .constraint _ _ => []

/-- The columns of a list of entries, one entry at a time. -/
theorem columnsOf_cons (v : Value) (vs : List Value) :
    columnsOf (.list (v :: vs)) = columnsOf (.list [v]) ++ columnsOf (.list vs) := by
  simp only [columnsOf]
  rw [← List.map_append, ← List.filter_append]
  rfl

/-- **An entry** survives the record: a column as itself, anything else as no column. -/
theorem ofSchemaItem_spec (d : Dialect) (item : SchemaItem) :
    match ofSchemaItem d item with
    | .ok v => (∀ x ∈ itemNumbers item, Readable x) ∧ columnsOf (.list [v]) = itemColumns d item
    | .error _ => ¬ ∀ x ∈ itemNumbers item, Readable x := by
  cases item with
  | constraint kind body => exact ⟨by simp [itemNumbers], rfl⟩
  | column c =>
    have hspec := columnDefinition_spec d c.type
    have hitem : ofSchemaItem d (.column c) = (columnDefinition d c.type).bind fun v =>
        .ok (.record [("resource", .text "column"), ("column", .record [("column", .text c.name)]),
          ("definition", v)]) := rfl
    rw [hitem]
    cases hdef : columnDefinition d c.type with
    | error e =>
      rw [hdef] at hspec
      exact hspec
    | ok v =>
      rw [hdef] at hspec
      refine ⟨hspec.1, ?_⟩
      show [Column.mk c.name (ColumnType.ofDefinition v).text] = _
      rw [hspec.2]
      rfl

/-- **The entries** survive the record together, or there is none. -/
theorem items_spec (d : Dialect) (items : List SchemaItem) :
    match items.mapM (ofSchemaItem d) with
    | .ok vs => (∀ x ∈ items.flatMap itemNumbers, Readable x)
        ∧ columnsOf (.list vs) = items.flatMap (itemColumns d)
    | .error _ => ¬ ∀ x ∈ items.flatMap itemNumbers, Readable x := by
  induction items with
  | nil => exact ⟨by simp, rfl⟩
  | cons item items ih =>
    have hspec := ofSchemaItem_spec d item
    rw [List.mapM_cons]
    simp only [List.flatMap_cons, List.forall_mem_append]
    cases hv : ofSchemaItem d item with
    | error e =>
      rw [hv] at hspec
      exact fun hall => hspec hall.1
    | ok v =>
      rw [hv] at hspec
      cases hm : items.mapM (ofSchemaItem d) with
      | error e =>
        rw [hm] at ih
        exact fun hall => ih hall.2
      | ok vs =>
        rw [hm] at ih
        refine ⟨⟨hspec.1, ih.1⟩, ?_⟩
        show columnsOf (.list (v :: vs)) = _
        rw [columnsOf_cons, hspec.2, ih.2]

/-! ## What a statement does to a summary -/

/-- Whether a kind of object is a table, in any letter case. -/
def IsTableKind (kind : String) : Prop := String.ofList (kind.toList.map Char.toLower) = "table"

/-- It can be tested. -/
instance (kind : String) : Decidable (IsTableKind kind) := by
  unfold IsTableKind
  infer_instance

/-- The numbers among the type parameters of the columns that a statement declares. -/
def statementNumbers : Statement → List String
  | .create kind _ items => if IsTableKind kind then items.flatMap itemNumbers else []
  | _ => []

/-- The rows that an insertion adds: those it lists, or one where it lists none. -/
def insertedRows : Option (List (List Expr)) → Nat
  | some rows => rows.length
  | none => 1

/-- **What a statement does to a summary.**  Choosing a database sets its name; creating a table puts in an empty
table with the declared columns; an insertion adds its rows to a table that is there.  Nothing else does anything. -/
def Effect (d : Dialect) (s : Summary) : Statement → Summary → Prop
  | .use (some target), s' => s' = if target = "" then s else { s with database := some target }
  | .create kind (some t) items, s' =>
    if IsTableKind kind ∧ t.name ≠ "" then s.Puts ⟨t.name, items.flatMap (itemColumns d), 0⟩ s' else s' = s
  | .insert (some t) rows, s' =>
    match s.table? t.name with
    | some old => s.Puts { old with rows := old.rows + insertedRows rows } s'
    | none => s' = s
  | _, s' => s' = s

/-! ## Records of statements -/

/-- The name behind a target in a record. -/
theorem ofTable_ofTableName (t : TableName) :
    (Reference.ofTable (.list [ofTableName t])).name? = if t.name = "" then none else some t.name := by
  show (Reference.ofText t.name).name? = _
  unfold Reference.ofText
  split <;> rfl

/-- A record of a type alone does nothing, even where its type is one of those that matter. -/
theorem after_type_only (s : Summary) (type : String) : s.after (.record [("type", .text type)]) = s := by
  have hu : usedDatabase? (.record [("type", .text type)]) = none := by
    unfold usedDatabase?
    split <;> rfl
  have hc : createdTable? (.record [("type", .text type)]) = none :=
    createdTable?_eq_none (Or.inr (by simp [List.lookup_cons]))
  have hf : filledTable? (.record [("type", .text type)]) = none := by
    unfold filledTable?
    split <;> rfl
  exact Summary.after_of_none hu hc hf s

/-- The record of the choice of a database with a name. -/
theorem after_use (s : Summary) (target : String) :
    s.after (.record [("type", .text "use"), ("db", .text target)])
      = if target = "" then s else { s with database := some target } := by
  have hu : usedDatabase? (.record [("type", .text "use"), ("db", .text target)])
      = (Reference.ofText target).name? := rfl
  unfold Reference.ofText at hu
  by_cases h : target = ""
  · rw [if_pos h] at hu ⊢
    exact Summary.after_of_none hu rfl rfl s
  · rw [if_neg h] at hu ⊢
    exact Summary.after_of_usedDatabase? hu s

/-- The record of the creation of a table. -/
theorem after_createTable (s : Summary) (target : Option TableName) (vs : List Value) :
    s.after (.record ([("type", .text "create"), ("keyword", .text "table")] ++ tableField target
        ++ [("create_definitions", .list vs)]))
      = match target with
        | some t => if t.name = "" then s else s.declare t.name (columnsOf (.list vs))
        | none => s := by
  cases target with
  | none => exact Summary.after_of_none rfl rfl rfl s
  | some t =>
    have hc : createdTable? (.record ([("type", .text "create"), ("keyword", .text "table")] ++ tableField (some t)
        ++ [("create_definitions", .list vs)])) = if t.name = "" then none else some t.name := by
      rw [← ofTable_ofTableName]
      rfl
    show _ = if t.name = "" then s else s.declare t.name (columnsOf (.list vs))
    by_cases h : t.name = ""
    · rw [if_pos h] at hc ⊢
      exact Summary.after_of_none rfl hc rfl s
    · rw [if_neg h] at hc ⊢
      rw [Summary.after_of_createdTable? hc]
      rfl

/-- The record of the creation of anything else. -/
theorem after_createOther (s : Summary) {keyword : String} (h : keyword ≠ "table") (fields : List (String × Value)) :
    s.after (.record ([("type", .text "create"), ("keyword", .text keyword)] ++ fields)) = s := by
  have hc : createdTable? (.record ([("type", .text "create"), ("keyword", .text keyword)] ++ fields)) = none := by
    refine createdTable?_eq_none (Or.inr ?_)
    show Value.text keyword ≠ .text "table"
    exact fun he => h (Value.text.inj he)
  exact Summary.after_of_none rfl hc rfl s

/-- The field of the rows of an insertion. -/
def rowsField (d : Dialect) : Option (List (List Expr)) → List (String × Value)
  | some rows => [("values", .list (rows.map (ofRow d)))]
  | none => []

/-- The record of an insertion. -/
theorem after_insert (d : Dialect) (s : Summary) (target : Option TableName) (rows : Option (List (List Expr))) :
    s.after (.record ([("type", .text "insert")] ++ tableField target ++ rowsField d rows))
      = match target with
        | some t => if t.name = "" then s else s.addRows t.name (insertedRows rows)
        | none => s := by
  cases target with
  | none => cases rows <;> exact Summary.after_of_none rfl rfl rfl s
  | some t =>
    have hf : filledTable? (.record ([("type", .text "insert")] ++ tableField (some t) ++ rowsField d rows))
        = if t.name = "" then none else some t.name := by
      rw [← ofTable_ofTableName]
      rfl
    have hrows : filledRows (.record ([("type", .text "insert")] ++ tableField (some t) ++ rowsField d rows))
        = insertedRows rows := by
      cases rows with
      | none => rfl
      | some rows =>
        show (rows.map (ofRow d)).length = rows.length
        exact List.length_map _
    show _ = if t.name = "" then s else s.addRows t.name (insertedRows rows)
    by_cases h : t.name = ""
    · rw [if_pos h] at hf ⊢
      exact Summary.after_of_none rfl rfl hf s
    · rw [if_neg h] at hf ⊢
      rw [Summary.after_of_filledTable? hf, hrows]

/-- The record of the creation of a table, if its entries have records. -/
theorem ofStatement_createTable (d : Dialect) {kind : String} (h : IsTableKind kind) (target : Option TableName)
    (items : List SchemaItem) :
    ofStatement d (.create kind target items) = (items.mapM (ofSchemaItem d)).bind fun vs =>
      .ok (.record ([("type", .text "create"), ("keyword", .text "table")] ++ tableField target
        ++ [("create_definitions", .list vs)])) := by
  unfold IsTableKind at h
  unfold ofStatement fieldsOf
  simp only [h, if_true]
  cases items.mapM (ofSchemaItem d) <;> rfl

/-- The record of the creation of anything else, which there always is. -/
theorem ofStatement_createOther (d : Dialect) {kind : String} (h : ¬ IsTableKind kind) (target : Option TableName)
    (items : List SchemaItem) :
    ∃ fields, ofStatement d (.create kind target items) = .ok (.record ([("type", .text "create"),
      ("keyword", .text (String.ofList (kind.toList.map Char.toLower)))] ++ fields)) := by
  unfold IsTableKind at h
  unfold ofStatement fieldsOf
  simp only [h, if_false]
  exact ⟨_, rfl⟩

/-- The effect of the creation of a table, by its record. -/
theorem effect_createTable (d : Dialect) {s : Summary} {kind : String} (h : IsTableKind kind)
    (target : Option TableName) {items : List SchemaItem} {vs : List Value}
    (hvs : columnsOf (.list vs) = items.flatMap (itemColumns d)) :
    Effect d s (.create kind target items) (s.after (.record ([("type", .text "create"),
      ("keyword", .text "table")] ++ tableField target ++ [("create_definitions", .list vs)]))) := by
  cases target with
  | none => exact after_createTable s none vs
  | some t =>
    have hafter := after_createTable s (some t) vs
    dsimp only at hafter
    rw [hafter, hvs]
    show if IsTableKind kind ∧ t.name ≠ "" then s.Puts _ _ else _ = s
    by_cases hn : t.name = ""
    · rw [if_neg (fun hc => hc.2 hn), if_pos hn]
    · rw [if_pos ⟨h, hn⟩, if_neg hn]
      exact Summary.puts_declare s t.name _

/-- The effect of an insertion, by its record. -/
theorem effect_insert (d : Dialect) {s : Summary} (hempty : "" ∉ s.names) (target : Option TableName)
    (rows : Option (List (List Expr))) :
    Effect d s (.insert target rows)
      (s.after (.record ([("type", .text "insert")] ++ tableField target ++ rowsField d rows))) := by
  cases target with
  | none => exact after_insert d s none rows
  | some t =>
    have hafter := after_insert d s (some t) rows
    dsimp only at hafter
    rw [hafter]
    cases ht : s.table? t.name with
    | some old =>
      have hn : t.name ≠ "" := fun he =>
        hempty (he ▸ Summary.table?_isSome_iff.mp (by rw [ht]; rfl))
      simp only [Effect, ht, if_neg hn]
      exact Summary.puts_addRows ht (insertedRows rows)
    | none =>
      have hdecl : s.declares t.name = false := by
        rw [← Bool.not_eq_true, Summary.declares_iff, ← Summary.table?_isSome_iff, ht]
        simp
      simp only [Effect, ht]
      by_cases hn : t.name = ""
      · exact if_pos hn
      · exact (if_neg hn).trans (Summary.addRows_of_not_declares hdecl _)

/-- **The record of a statement has the statement's effect**, on every summary that a run reaches, and a statement
has no record exactly if a type parameter of one of its columns has no value. -/
theorem apply_ofStatement (d : Dialect) (st : Statement) (vs : List Value) :
    match ofStatement d st with
    | .ok r => (∀ x ∈ statementNumbers st, Readable x)
        ∧ Effect d (analyze (.list vs)).1 st ((analyze (.list vs)).1.apply r).1
    | .error _ => ¬ ∀ x ∈ statementNumbers st, Readable x := by
  have hempty : "" ∉ (analyze (.list vs)).1.names :=
    Summary.empty_notMem_names_run (by simp [Summary.empty, Summary.names]) 0 vs
  -- of the state that a run reaches only this is needed: no table is without a name
  generalize (analyze (.list vs)).1 = s at hempty
  cases st with
  | use target =>
    refine ⟨by simp [statementNumbers], ?_⟩
    rw [Summary.apply_fst]
    cases target with
    | some target => exact after_use s target
    | none => exact Summary.after_of_none rfl rfl rfl s
  | create kind target items =>
    by_cases hk : IsTableKind kind
    · have hspec := items_spec d items
      rw [ofStatement_createTable d hk]
      simp only [statementNumbers, if_pos hk]
      cases hm : items.mapM (ofSchemaItem d) with
      | ok vs =>
        rw [hm] at hspec
        refine ⟨hspec.1, ?_⟩
        rw [Summary.apply_fst]
        exact effect_createTable d hk target hspec.2
      | error e =>
        rw [hm] at hspec
        exact hspec
    · obtain ⟨fields, hf⟩ := ofStatement_createOther d hk target items
      rw [hf]
      refine ⟨by simp [statementNumbers, hk], ?_⟩
      rw [Summary.apply_fst, after_createOther s hk]
      cases target with
      | none => exact rfl
      | some t => exact if_neg (fun hc => hk hc.1) |>.mpr rfl
  | insert target rows =>
    refine ⟨by simp [statementNumbers], ?_⟩
    rw [Summary.apply_fst]
    exact effect_insert d hempty target rows
  | raw keyword =>
    refine ⟨by simp [statementNumbers], ?_⟩
    rw [Summary.apply_fst]
    exact after_type_only s _
  | other key =>
    refine ⟨by simp [statementNumbers], ?_⟩
    rw [Summary.apply_fst]
    exact after_type_only s key

/-- A size of one digit more than are read as a number. -/
def longSize : String := String.ofList (List.replicate 4301 '1')

theorem toList_longSize : longSize.toList = List.replicate 4301 '1' := String.toList_ofList

/-- The size is written in decimal digits. -/
theorem isDigit_longSize : ∀ c ∈ longSize.toList, c.isDigit = true := by
  rw [toList_longSize]
  intro c hc
  rw [List.eq_of_mem_replicate hc]
  rfl

theorem length_longSize : longSize.toList.length = 4301 := by
  rw [toList_longSize, List.length_replicate]

theorem numberValue_longSize : numberValue longSize = .error (.tooManyDigits 4301) := by
  have hvalues : ∀ c ∈ longSize.toList, (Text.digitValue? c).isSome = true := by
    intro c hc
    rw [Text.digitValue?, if_pos (isDigit_longSize c hc)]
    rfl
  have hfault := numberValue_of_long hvalues (by rw [length_longSize]; decide)
  rwa [length_longSize] at hfault

/-- A table whose column has a size without a value has no record. -/
theorem ofStatement_of_size {size : String} {e : Fault} (h : numberValue size = .error e) :
    ofStatement .mysql (.create "TABLE" (some ⟨[⟨"t", false⟩]⟩)
      [.column ⟨"a", some (.builtin .varchar [.number size])⟩]) = .error e := by
  simp [ofStatement, fieldsOf, ofSchemaItem, columnDefinition, numericParams, typeParameters, parameterNumber?, h,
    bind, Except.bind]

/-- A column with such a size, which should be shown with it, leaves its table without a record. -/
theorem ofStatement_longSize :
    (∀ c ∈ longSize.toList, c.isDigit = true) ∧
    ofStatement .mysql (.create "TABLE" (some ⟨[⟨"t", false⟩]⟩)
      [.column ⟨"a", some (.builtin .varchar [.number longSize])⟩]) = .error (.tooManyDigits 4301) :=
  ⟨isDigit_longSize, ofStatement_of_size numberValue_longSize⟩

end DumpSummary.Record
