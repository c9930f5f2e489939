import DumpSummary.Proofs.Dump.Description
import DumpSummary.Proofs.Sql.Scan
import DumpSummary.Sql.Parser

/-!
# Printed statements, read back

Each statement of the script of a database is scanned as the tokens it was written for, and these are parsed as the
statement it was printed from.  Where a word may stand before a name the parser looks at what is written in the name,
backticks or not, so a few names have to be kept out.

## Contents

* `Line.tokens`, `Line.statement`: the tokens and the tree of a statement;
* `Name.Creatable`, `Line.Unmistakable`: names that are none of the words that may stand in their place;
* `scansAs_creation`, `scans_text`: the text is scanned as the tokens;
* `text_name`, `texts_name`, `oneWritten_name`: a name is not taken for a word;
* `typeParams_reads`, `reads_typedColumn`: a column is read back if its type is;
* `reads_column`, `reads_row`, `statement_creation`, `statement_tokens`: the tokens are parsed as the statement;
* `parse_of_scans`, `parse_creation`, `parse_text`: **the text is read as the statement.**
-/

namespace DumpSummary.Description

open Sql

/-! ## Tokens and trees -/

/-- The type as a tree. -/
def Kind.dataType : Kind → DataType
  | .int => .builtin .int []
  | .varchar n => .builtin .varchar [.number (Nat.repr n.value)]
  | .decimal p s => .builtin .decimal [.number (Nat.repr p.value), .number (Nat.repr s.value)]

/-- The tokens of a type. -/
def Kind.tokens : Kind → List Token
  | .int => [.word "INT" "INT"]
  | .varchar n => [.word "VARCHAR" "VARCHAR", .sign "(", .number (Nat.repr n.value), .sign ")"]
  | .decimal p s =>
    [.word "DECIMAL" "DECIMAL", .sign "(", .number (Nat.repr p.value), .sign ",", .number (Nat.repr s.value), .sign ")"]

/-- The tokens of a column. -/
def ColumnSpec.tokens (c : ColumnSpec) : List Token := .name c.name.text :: c.kind.tokens

/-- The entry of a column. -/
def ColumnSpec.item (c : ColumnSpec) : SchemaItem := .column ⟨c.name.text, some c.kind.dataType⟩

/-- The token of a value. -/
def valueTokens (v : String) : List Token := [.string .plain v]

/-- The tree of a value. -/
def valueExpr (v : String) : Expr := .string .plain v

/-- The tokens of a row. -/
def rowTokens (row : List String) : List Token :=
  .sign "(" :: Parse.listTokens (row.map valueTokens) ++ [.sign ")"]

/-- The tokens of the creation of a table with entries of the given tokens. -/
def creationTokens (table : Name) (entries : List (List Token)) : List Token :=
  [.word "CREATE" "CREATE", .word "TABLE" "TABLE", .name table.text, .sign "("]
    ++ (Parse.listTokens entries ++ [.sign ")"])

/-- The tokens of a statement. -/
def Line.tokens : Line → List Token
  | .use n => [.word "USE" "USE", .name n.text]
  | .create t => creationTokens t.name (t.columns.map ColumnSpec.tokens)
  | .fill t _ =>
    [.word "INSERT" "INSERT", .word "INTO" "INTO", .name t.name.text, .word "VALUES" "VALUES"]
      ++ Parse.listTokens (t.rows.map rowTokens)

/-- The name of a table as a target. -/
def Name.target (n : Name) : TableName := ⟨[⟨n.text, true⟩]⟩

/-- The tree of a statement. -/
def Line.statement : Line → Statement
  | .use n => .use (some n.text)
  | .create t => .create "TABLE" (some t.name.target) (t.columns.map ColumnSpec.item)
  | .fill t _ => .insert (some t.name.target) (some (t.rows.map fun row => row.map valueExpr))

/-! ## Names that are words -/

/-- The words that mean something between the kind of what is created and its name. -/
def wordsBeforeName : List String := ["CONCURRENTLY", "IF"]

/-- The name can be told from the words that may stand before the name of a table that is created.  Backticks do not
keep them apart. -/
def Name.Creatable (n : Name) : Prop := Text.upper n.text ∉ wordsBeforeName

/-- The name in a statement can be told from the words that may stand in its place. -/
def Line.Unmistakable : Line → Prop
  | .use n => Text.upper n.text ∉ Grammar.usableKinds
  | .create t => t.name.Creatable
  | .fill t _ => Text.upper t.name.text ∉ ["VALUES", "FORMAT"]

instance : DecidablePred Name.Creatable := fun n => inferInstanceAs (Decidable (Text.upper n.text ∉ wordsBeforeName))

instance : DecidablePred Line.Unmistakable
  | .use n => inferInstanceAs (Decidable (Text.upper n.text ∉ Grammar.usableKinds))
  | .create t => inferInstanceAs (Decidable t.name.Creatable)
  | .fill t _ => inferInstanceAs (Decidable (Text.upper t.name.text ∉ ["VALUES", "FORMAT"]))

/-! ## Scanning -/

/-- Items that are related one by one. -/
theorem forall₂_map {α β γ : Type} {R : α → β → Prop} {f : γ → α} {g : γ → β} (xs : List γ)
    (h : ∀ x ∈ xs, R (f x) (g x)) : List.Forall₂ R (xs.map f) (xs.map g) :=
  List.forall₂_map_left_iff.mpr (List.forall₂_map_right_iff.mpr (List.forall₂_same.mpr h))

/-- The digits of a number are scanned as its token. -/
theorem scansAs_repr (n : Nat) : ScansAs .mysql (Nat.repr n).toList [.number (Nat.repr n)] := by
  have hne : (Nat.repr n).toList ≠ [] := by
    rw [Nat.toList_repr]
    exact Nat.toDigits_ne_nil
  obtain ⟨c, w, hw⟩ := List.exists_cons_of_ne_nil hne
  have hnumber := scansAs_number fun x hx => isDigit_of_mem_repr (hw ▸ hx)
  rwa [← hw, String.ofList_toList] at hnumber

theorem scansAs_quoted (n : Name) : ScansAs .mysql n.quoted [.name n.text] := by
  have h := scansAs_name n.backtick_notMem
  rwa [String.ofList_toList] at h

theorem scansAs_quotedValue (v : String) : ScansAs .mysql (quotedValue v) (valueTokens v) := by
  have h := scansAs_literal v.toList
  rwa [String.ofList_toList] at h

/-- A type is scanned as its tokens. -/
theorem scansAs_kind (k : Kind) : ScansAs .mysql k.text.toList k.tokens := by
  cases k with
  | int => exact scansAs_keyword (by decide)
  | varchar n =>
    have hword : ScansAs .mysql "VARCHAR".toList [.word "VARCHAR" "VARCHAR"] := scansAs_keyword (by decide)
    have hall := hword.before (scansAs_parens (scansAs_repr n.value)) ⟨'(', _, rfl, by decide⟩
    have htext : (Kind.varchar n).text.toList = "VARCHAR".toList ++ ('(' :: (Nat.repr n.value).toList ++ [')']) := by
      simp [Kind.text, String.toList_append]
    rw [htext]
    exact hall
  | decimal p s =>
    have hword : ScansAs .mysql "DECIMAL".toList [.word "DECIMAL" "DECIMAL"] := scansAs_keyword (by decide)
    have hsizes : ScansAs .mysql (List.intercalate [','] [(Nat.repr p.value).toList, (Nat.repr s.value).toList])
        (Parse.listTokens [[.number (Nat.repr p.value)], [.number (Nat.repr s.value)]]) :=
      scansAs_intercalate [] (by simp) (.cons (scansAs_repr p.value) (.cons (scansAs_repr s.value) .nil))
    have hall := hword.before (scansAs_parens hsizes) ⟨'(', _, rfl, by decide⟩
    have htext : (Kind.decimal p s).text.toList = "DECIMAL".toList
        ++ ('(' :: List.intercalate [','] [(Nat.repr p.value).toList, (Nat.repr s.value).toList] ++ [')']) := by
      simp [Kind.text, String.toList_append, List.intercalate]
    rw [htext]
    exact hall

/-- A column is scanned as its tokens. -/
theorem scansAs_column (c : ColumnSpec) : ScansAs .mysql c.text c.tokens :=
  (scansAs_quoted c.name).spaced (scansAs_kind c.kind)

/-- A row is scanned as its tokens. -/
theorem scansAs_row (row : List String) : ScansAs .mysql (rowText row) (rowTokens row) :=
  scansAs_parens (scansAs_intercalate [] (by simp) (forall₂_map row fun v _ => scansAs_quotedValue v))

/-- The creation of a table is scanned as its tokens if its entries are. -/
theorem scansAs_creation (table : Name) {texts : List (List Char)} {entries : List (List Token)}
    (h : List.Forall₂ (ScansAs .mysql) texts entries) :
    ScansAs .mysql (creationText table texts) (creationTokens table entries) := by
  have hcreate : ScansAs .mysql "CREATE".toList [.word "CREATE" "CREATE"] := scansAs_keyword (by decide)
  have htable : ScansAs .mysql "TABLE".toList [.word "TABLE" "TABLE"] := scansAs_keyword (by decide)
  have hspace : ∀ x ∈ [' '], Text.isBlank x = true := List.forall_mem_singleton.mpr (by decide)
  have hentries := scansAs_parens (scansAs_intercalate [' '] hspace h)
  have hname := (scansAs_quoted table).spaced hentries
  have hhead := htable.spaced hname
  exact hcreate.spaced hhead

/-- **A statement** is scanned as its tokens. -/
theorem scans_text (l : Line) : Scans .mysql l.text l.tokens := by
  suffices h : ScansAs .mysql l.text l.tokens from h.scans
  cases l with
  | use n =>
    have hword : ScansAs .mysql "USE".toList [.word "USE" "USE"] := scansAs_keyword (by decide)
    exact hword.spaced (scansAs_quoted n)
  | create t => exact scansAs_creation t.name (forall₂_map t.columns fun c _ => scansAs_column c)
  | fill t _ =>
    have hinsert : ScansAs .mysql "INSERT".toList [.word "INSERT" "INSERT"] := scansAs_keyword (by decide)
    have hinto : ScansAs .mysql "INTO".toList [.word "INTO" "INTO"] := scansAs_keyword (by decide)
    have hvalues : ScansAs .mysql "VALUES".toList [.word "VALUES" "VALUES"] := scansAs_keyword (by decide)
    have hrows := scansAs_intercalate [] (by simp) (forall₂_map t.rows fun row _ => scansAs_row row)
    have hlist := hvalues.spaced hrows
    have hname := (scansAs_quoted t.name).spaced hlist
    have hhead := hinto.spaced hname
    exact hinsert.spaced hhead

/-! ## Parsing -/

open Grammar Parse

section Names

variable {d : Dialect} {name key : String}

/-- A name is not taken for a word that is not written in it. -/
theorem text_name (h : Text.upper name ≠ key) (rest : List Token) :
    text key d (.name name :: rest) = .ok (false, .name name :: rest) := by
  have hnone : (text? (.name name)).filter (· == key) = none := by simp [text?, written?, h]
  have htake : take? (fun t => (text? t).filter (· == key)) d (.name name :: rest)
      = .ok (none, .name name :: rest) := by
    unfold take?
    refine bind_ok (a := some (.name name)) rfl ?_
    dsimp only
    rw [hnone]
    rfl
  exact bind_ok htake rfl

theorem texts_name (h : Text.upper name ≠ key) (keys : List String) (rest : List Token) :
    texts (key :: keys) d (.name name :: rest) = .ok (false, .name name :: rest) := by
  have hnone : (((.name name :: rest).take (key :: keys).length).map text? == (key :: keys).map some) = false := by
    rw [beq_eq_false_iff_ne]
    intro he
    exact h (Option.some.inj (List.cons.inj he).1)
  unfold texts
  refine bind_ok (a := .name name :: rest) rfl ?_
  rw [hnone]
  rfl

theorem oneWritten_name {keys : List String} (h : Text.upper name ∉ keys) (rest : List Token) :
    oneWritten keys d (.name name :: rest) = .ok (none, .name name :: rest) := by
  have hnone : (written? (.name name)).filter keys.contains = none := by simp [written?, h]
  unfold oneWritten take?
  refine bind_ok (a := some (.name name)) rfl ?_
  dsimp only
  rw [hnone]
  rfl

end Names

/-- **A column** is read back. -/
theorem reads_column (h : Rules) (c : ColumnSpec) :
    ReadsItem .mysql (orElse (tableConstraint h.next) (columnEntry h.next)) c.tokens c.item := by
  intro rest hrest
  obtain ⟨n, k⟩ := c
  cases k with
  | int => cases hrest <;> exact (rfl)
  | varchar l => cases hrest <;> exact (rfl)
  | decimal p s => cases hrest <;> exact (rfl)

/-- **The parameters of a type**, in their parentheses, are read back if each of them is. -/
theorem typeParams_reads {α : Type} {param : Parse (Option α)} {tokens : List (List Token)} {params : List α}
    (hreads : List.Forall₂ (ReadsItem .mysql param) tokens params) (hne : tokens ≠ []) (rest : List Token) :
    typeParams param .mysql (.sign "(" :: (listTokens tokens ++ .sign ")" :: rest)) = .ok (some params, rest) := by
  have hlist := commaList_reads hreads hne (.close rest)
  have hparens : (do
      if !(← sign "(") then return none
      let items ← commaList param
      if ← sign ")" then return some items else return none : Parse (Option (List α))) .mysql
        (.sign "(" :: (listTokens tokens ++ .sign ")" :: rest))
      = .ok (some params, rest) :=
    bind_ok (a := true) rfl (bind_ok hlist (bind_ok (a := true) rfl rfl))
  exact bind_ok rfl (bind_ok hparens rfl)

/-- **A column of some type** is read back if the type is, where the type begins with a word. -/
theorem reads_typedColumn (h : Rules) (n : Name) {w u : String} {more : List Token} {type : DataType}
    (htype : ReadsItem .mysql (dataType h.next) (.word w u :: more) type) :
    ReadsItem .mysql (orElse (tableConstraint h.next.next) (columnEntry h.next.next))
      (.name n.text :: .word w u :: more) (.column ⟨n.text, some type⟩) := by
  intro rest hrest
  have hcolumn : columnEntry h.next.next .mysql (.name n.text :: .word w u :: (more ++ rest))
      = .ok (some (.column ⟨n.text, some type⟩), rest) := by
    unfold columnEntry
    refine bind_ok (a := some (.column [⟨n.text, true⟩])) rfl (bind_ok (htype rest hrest) ?_)
    -- no options behind the type
    cases hrest <;> exact (rfl)
  exact bind_ok (a := none) rfl hcolumn

/-- **A value** is read back. -/
theorem reads_value (h : Rules) (v : String) :
    ReadsItem .mysql (rowValue h.next) (valueTokens v) (valueExpr v) := by
  intro rest hrest
  cases hrest <;> exact (rfl)

/-- **A row** is read back. -/
theorem reads_row (h : Rules) {row : List String} (hne : row ≠ []) :
    ReadsItem .mysql (rowOf h.next) (rowTokens row) (row.map valueExpr) := by
  intro rest hrest
  have hvalues : List.Forall₂ (ReadsItem .mysql (rowValue h.next)) (row.map valueTokens) (row.map valueExpr) :=
    forall₂_map row fun v _ => reads_value h v
  have hlist := commaList_reads hvalues (by simpa using hne) (.close rest)
  have htokens : rowTokens row ++ rest = .sign "(" :: (listTokens (row.map valueTokens) ++ .sign ")" :: rest) := by
    simp [rowTokens]
  rw [htokens]
  refine bind_ok (a := true) rfl (bind_ok hlist ?_)
  exact (rfl)

section Creation

variable {h : Rules} {entries : List (List Token)} {items : List SchemaItem}

/-- **The entries of a table** are read back if each of them is and the first one begins with a name. -/
theorem schemaItems_reads
    (hreads : List.Forall₂ (ReadsItem .mysql (orElse (tableConstraint h.next) (columnEntry h.next))) entries items)
    (hname : ∃ n ts es, entries = (.name n :: ts) :: es) :
    schemaItems h.next .mysql (.sign "(" :: (listTokens entries ++ [.sign ")"])) = .ok (some items, []) := by
  obtain ⟨n, ts, es, hentries⟩ := hname
  have hlist := commaList_reads hreads (by simp [hentries]) (.close [])
  have hsecond : second? .mysql (.sign "(" :: (listTokens entries ++ [.sign ")"]))
      = .ok (some (.name n), .sign "(" :: (listTokens entries ++ [.sign ")"])) := by
    rw [hentries]
    rfl
  unfold schemaItems
  refine bind_ok (a := true) rfl (bind_ok hsecond ?_)
  refine bind_ok (a := ()) rfl (bind_ok hlist ?_)
  exact (rfl)

variable (hitems : schemaItems h.next .mysql (.sign "(" :: (listTokens entries ++ [.sign ")"])) = .ok (some items, []))
include hitems

/-- The definition of a table, after its kind. -/
theorem createNamed_reads (table : Name) :
    createNamed h.next "TABLE" .mysql (.name table.text :: .sign "(" :: (listTokens entries ++ [.sign ")"]))
      = .ok (.create "TABLE" (some table.target) items, []) := by
  unfold createNamed
  refine bind_ok (a := table.target) rfl ?_
  -- no comma and no properties before the entries
  refine bind_ok (a := false) rfl (bind_ok (a := ()) rfl ?_)
  refine bind_ok hitems ?_
  -- nothing after them
  exact (rfl)

/-- The definition of a table, from its kind on. -/
theorem createBody_reads {table : Name} (hname : table.Creatable) :
    createBody h.next "TABLE" .mysql (.name table.text :: .sign "(" :: (listTokens entries ++ [.sign ")"]))
      = .ok (.create "TABLE" (some table.target) items, []) := by
  obtain ⟨hconcurrently, hif⟩ : Text.upper table.text ≠ "CONCURRENTLY" ∧ Text.upper table.text ≠ "IF" := by
    simpa [Name.Creatable, wordsBeforeName] using hname
  unfold createBody
  refine bind_ok (a := Dialect.mysql) rfl ?_
  refine bind_ok (text_name hconcurrently _) (bind_ok (bind_ok (text_name hif _) rfl) ?_)
  rw [if_neg (by decide), if_neg (by decide)]
  exact createNamed_reads hitems table

/-- **The creation of a table** is read back if its entries are. -/
theorem statement_creation {table : Name} (hname : table.Creatable) :
    statement h.next .mysql (creationTokens table entries)
      = .ok (some (.create "TABLE" (some table.target) items), []) := by
  have hcreate : createStatement h.next .mysql (.word "TABLE" "TABLE" :: .name table.text :: .sign "("
        :: (listTokens entries ++ [.sign ")"]))
      = .ok (.create "TABLE" (some table.target) items, []) := by
    unfold createStatement
    refine bind_ok (a := Dialect.mysql) rfl ?_
    refine bind_ok (a := false) rfl (bind_ok (a := false) rfl (bind_ok (a := false) rfl ?_))
    refine bind_ok (a := some "TABLE") rfl ?_
    refine bind_ok (a := some "TABLE") rfl ?_
    refine bind_ok (createBody_reads hitems hname) ?_
    exact (rfl)
  have hlead : leadingWord h.next "CREATE" .mysql (creationTokens table entries)
      = .ok (some (.create "TABLE" (some table.target) items), []) := by
    unfold leadingWord
    exact bind_ok (a := Dialect.mysql) rfl (bind_ok (a := ()) rfl (bind_ok hcreate rfl))
  exact bind_ok (bind_ok (a := some "CREATE") rfl (bind_ok hlead rfl)) rfl

end Creation

/-- **The creation of a table** with its columns is read back. -/
theorem statement_create (h : Rules) {t : TableSpec} (hname : (Line.create t).Unmistakable) :
    statement h.next .mysql (Line.create t).tokens = .ok (some (Line.create t).statement, []) := by
  have hcolumns : List.Forall₂ (ReadsItem .mysql (orElse (tableConstraint h.next) (columnEntry h.next)))
      (t.columns.map ColumnSpec.tokens) (t.columns.map ColumnSpec.item) :=
    forall₂_map t.columns fun c _ => reads_column h c
  obtain ⟨c, cs, hc⟩ := List.exists_cons_of_ne_nil t.columns_ne_nil
  have hfirst : t.columns.map ColumnSpec.tokens = (.name c.name.text :: c.kind.tokens) :: cs.map ColumnSpec.tokens := by
    rw [hc]
    rfl
  exact statement_creation (schemaItems_reads hcolumns ⟨_, _, _, hfirst⟩) hname

/-- The target of an insertion is read back. -/
theorem insertTarget_reads (h : Rules) {n : Name} (hname : Text.upper n.text ∉ ["VALUES", "FORMAT"])
    (rest : List Token) :
    insertTarget h.next .mysql (.name n.text :: .word "VALUES" "VALUES" :: rest)
      = .ok (some n.target, .word "VALUES" "VALUES" :: rest) := by
  obtain ⟨hvalues, hformat⟩ : Text.upper n.text ≠ "VALUES" ∧ Text.upper n.text ≠ "FORMAT" := by simpa using hname
  have hrows : rowsOf h.next .mysql (.name n.text :: .word "VALUES" "VALUES" :: rest)
      = .ok (none, .name n.text :: .word "VALUES" "VALUES" :: rest) := by
    have hword : rowsWord .mysql (.name n.text :: .word "VALUES" "VALUES" :: rest)
        = .ok (false, .name n.text :: .word "VALUES" "VALUES" :: rest) :=
      bind_ok (text_name hvalues _) (texts_name hformat ["VALUES"] _)
    unfold rowsOf
    refine bind_ok (a := false) rfl (bind_ok rfl ?_)
    exact bind_ok hword rfl
  unfold insertTarget
  refine bind_ok (a := false) rfl (bind_ok hrows ?_)
  exact (rfl)

/-- The insertion of rows, after its first word. -/
theorem insertStatement_reads (h : Rules) {t : TableSpec} (hne : t.rows ≠ [])
    (hname : Text.upper t.name.text ∉ ["VALUES", "FORMAT"]) :
    insertStatement h.next .mysql (.word "INTO" "INTO" :: .name t.name.text :: .word "VALUES" "VALUES"
        :: listTokens (t.rows.map rowTokens))
      = .ok (.insert (some t.name.target) (some (t.rows.map fun row => row.map valueExpr)), []) := by
  have hrow : ∀ row ∈ t.rows, row ≠ [] := by
    rintro row hmem rfl
    exact t.columns_ne_nil (List.length_eq_zero_iff.mp (t.fits [] hmem).symm)
  have hrows : List.Forall₂ (ReadsItem .mysql (rowOf h.next)) (t.rows.map rowTokens)
      (t.rows.map fun row => row.map valueExpr) := forall₂_map t.rows fun row hmem => reads_row h (hrow row hmem)
  have hlist := commaList_reads hrows (by simpa using hne) .nil
  rw [List.append_nil] at hlist
  have hsource : insertSource h.next .mysql (.word "VALUES" "VALUES" :: listTokens (t.rows.map rowTokens))
      = .ok (some (t.rows.map fun row => row.map valueExpr), []) := by
    have hrowList : rowList h.next .mysql (listTokens (t.rows.map rowTokens))
        = .ok (t.rows.map fun row => row.map valueExpr, []) := by
      unfold rowList
      refine bind_ok hlist ?_
      rw [if_neg (by simpa using hne)]
      rfl
    have hrowsOf : rowsOf h.next .mysql (.word "VALUES" "VALUES" :: listTokens (t.rows.map rowTokens))
        = .ok (some (t.rows.map fun row => row.map valueExpr), []) := by
      unfold rowsOf
      refine bind_ok (a := false) rfl (bind_ok rfl ?_)
      exact bind_ok (a := true) rfl (bind_ok hrowList rfl)
    unfold insertSource
    refine bind_ok (a := none) rfl (bind_ok hrowsOf ?_)
    exact (rfl)
  have htarget : insertTarget h.next .mysql
      (.name t.name.text :: .word "VALUES" "VALUES" :: listTokens (t.rows.map rowTokens))
      = .ok (some t.name.target, .word "VALUES" "VALUES" :: listTokens (t.rows.map rowTokens)) :=
    insertTarget_reads h hname _
  unfold insertStatement
  refine bind_ok (a := Dialect.mysql) rfl (bind_ok (a := false) rfl ?_)
  -- no options before `INTO`
  rw [if_pos rfl]
  refine bind_ok (a := none) rfl (bind_ok (a := false) rfl ?_)
  refine bind_ok (a := false) rfl (bind_ok (a := false) rfl ?_)
  refine bind_ok (a := false) rfl (bind_ok (a := false) rfl ?_)
  refine bind_ok (a := false) rfl ?_
  refine bind_ok (a := true) rfl (bind_ok (a := false) rfl ?_)
  refine bind_ok htarget (bind_ok (a := ()) rfl ?_)
  -- no options between the target and the rows
  refine bind_ok (a := false) rfl (bind_ok (a := ()) rfl ?_)
  refine bind_ok (a := false) rfl (bind_ok (a := false) rfl ?_)
  refine bind_ok hsource ?_
  -- nothing after the rows
  exact (rfl)

/-- **The insertion of rows** is read back. -/
theorem statement_fill (h : Rules) {t : TableSpec} (hne : t.rows ≠ []) (hname : (Line.fill t hne).Unmistakable) :
    statement h.next .mysql (Line.fill t hne).tokens = .ok (some (Line.fill t hne).statement, []) := by
  have hlead : leadingWord h.next "INSERT" .mysql (Line.fill t hne).tokens
      = .ok (some (Line.fill t hne).statement, []) := by
    unfold leadingWord
    exact bind_ok (a := Dialect.mysql) rfl (bind_ok (a := ()) rfl (bind_ok (insertStatement_reads h hne hname) rfl))
  exact bind_ok (bind_ok (a := some "INSERT") rfl (bind_ok hlead rfl)) rfl

/-- **The choice of a database** is read back. -/
theorem statement_use (h : Rules) {n : Name} (hname : (Line.use n).Unmistakable) :
    statement h.next .mysql (Line.use n).tokens = .ok (some (Line.use n).statement, []) := by
  have huse : useStatement h.next .mysql [.name n.text] = .ok (.use (some n.text), []) := by
    unfold useStatement
    refine bind_ok (oneWritten_name hname []) ?_
    exact (rfl)
  have hlead : leadingWord h.next "USE" .mysql (Line.use n).tokens = .ok (some (Line.use n).statement, []) := by
    unfold leadingWord
    exact bind_ok (a := Dialect.mysql) rfl (bind_ok (a := ()) rfl (bind_ok huse rfl))
  exact bind_ok (bind_ok (a := some "USE") rfl (bind_ok hlead rfl)) rfl

/-- **The tokens of a statement** are parsed as the statement, at every level of the grammar but the lowest. -/
theorem statement_tokens (h : Rules) {l : Line} (hname : l.Unmistakable) :
    statement h.next .mysql l.tokens = .ok (some l.statement, []) := by
  cases l with
  | use n => exact statement_use h hname
  | create t => exact statement_create h hname
  | fill t hne => exact statement_fill h hne hname

/-! ## Reading -/

/-- A list has no semicolon among its tokens if none of its items has one. -/
theorem semicolon_notMem_listTokens {items : List (List Token)} (h : ∀ item ∈ items, Token.sign ";" ∉ item) :
    Token.sign ";" ∉ listTokens items := by
  cases items with
  | nil => exact List.not_mem_nil
  | cons item items =>
    intro hmem
    rcases List.mem_append.mp hmem with hmem | hmem
    · exact h item List.mem_cons_self hmem
    · obtain ⟨next, hnext, hmem⟩ := List.mem_flatMap.mp hmem
      rcases List.mem_cons.mp hmem with he | hmem
      · exact absurd he (by decide)
      · exact h next (List.mem_cons_of_mem item hnext) hmem

/-- No column has a semicolon among its tokens. -/
theorem semicolon_notMem_column (c : ColumnSpec) : Token.sign ";" ∉ c.tokens := by
  cases hk : c.kind <;> simp [ColumnSpec.tokens, Kind.tokens, hk]

/-- The creation of a table has no semicolon among its tokens if none of its entries has one. -/
theorem semicolon_notMem_creation (table : Name) {entries : List (List Token)}
    (h : ∀ entry ∈ entries, Token.sign ";" ∉ entry) : Token.sign ";" ∉ creationTokens table entries := by
  simp [creationTokens, semicolon_notMem_listTokens h]

/-- No statement has a semicolon among its tokens. -/
theorem semicolon_notMem_tokens (l : Line) : Token.sign ";" ∉ l.tokens := by
  cases l with
  | use n => simp [Line.tokens]
  | create t =>
    refine semicolon_notMem_creation t.name fun item hitem => ?_
    obtain ⟨c, _, rfl⟩ := List.mem_map.mp hitem
    exact semicolon_notMem_column c
  | fill t _ =>
    have hrows : Token.sign ";" ∉ listTokens (t.rows.map rowTokens) := by
      refine semicolon_notMem_listTokens fun item hitem => ?_
      obtain ⟨row, _, rfl⟩ := List.mem_map.mp hitem
      have hvalues : Token.sign ";" ∉ listTokens (row.map valueTokens) := by
        refine semicolon_notMem_listTokens fun item hitem => ?_
        obtain ⟨v, _, rfl⟩ := List.mem_map.mp hitem
        simp [valueTokens]
      simp [rowTokens, hvalues]
    simp [Line.tokens, hrows]

/-- Tokens without a semicolon are one piece. -/
theorem pieces_eq_singleton {ts : List Token} (h : Token.sign ";" ∉ ts) : pieces ts = [ts] := by
  induction ts with
  | nil => rfl
  | cons t ts ih =>
    have ht : t ≠ .sign ";" := fun he => h (by rw [he]; exact List.mem_cons_self)
    unfold pieces
    rw [ih fun hm => h (List.mem_cons_of_mem t hm)]
    exact if_neg ht

/-- **A text is read as a statement** if it is scanned as tokens without a semicolon that are parsed as the statement. -/
theorem parse_of_scans {text : List Char} {ts : List Token} {st : Statement} (hscan : Scans .mysql text ts)
    (hsemi : Token.sign ";" ∉ ts) (hstatement : statement (rules (ts.length + 1)) .mysql ts = .ok (some st, [])) :
    Sql.parse .mysql (String.ofList text) = .ok [st] := by
  have hpiece : parsePiece .mysql ts = .ok (some st) := by
    unfold parsePiece
    rw [hstatement]
  unfold Sql.parse
  rw [scan?_of_scans hscan]
  dsimp only
  rw [pieces_eq_singleton hsemi, List.mapM_cons, hpiece]
  rfl

/-- **The creation of a table is read as its tree** if each of its entries is scanned and read back and begins with a
name. -/
theorem parse_creation {table : Name} (hname : table.Creatable) {ι : Type} {text : ι → List Char} {name : ι → String} {more : ι → List Token}
    {item : ι → SchemaItem} {entries : List ι} (hne : entries ≠ [])
    (hscan : ∀ e, ScansAs .mysql (text e) (.name (name e) :: more e))
    (hsemi : ∀ e, Token.sign ";" ∉ Token.name (name e) :: more e)
    (hreads : ∀ (h : Rules) e, ReadsItem .mysql (orElse (tableConstraint h.next.next) (columnEntry h.next.next))
      (.name (name e) :: more e) (item e)) :
    Sql.parse .mysql (String.ofList (creationText table (entries.map text)))
      = .ok [.create "TABLE" (some table.target) (entries.map item)] := by
  have hall := scansAs_creation table (forall₂_map entries fun e _ => hscan e)
  have hnone := semicolon_notMem_creation table (List.forall_mem_map.mpr fun e (_ : e ∈ entries) => hsemi e)
  refine parse_of_scans hall.scans hnone ?_
  -- there are tokens, so there are two levels of the grammar below that of the statement
  obtain ⟨k, hk⟩ : ∃ k, (creationTokens table (entries.map fun e => .name (name e) :: more e)).length = k + 1 := ⟨_, rfl⟩
  rw [hk]
  obtain ⟨e, es, rfl⟩ := List.exists_cons_of_ne_nil hne
  have hitems := schemaItems_reads (forall₂_map (e :: es) fun e _ => hreads (rules k) e) ⟨_, _, _, rfl⟩
  exact statement_creation hitems hname

/-- **The text of a statement is read as the statement** if its name is none of the words that may stand there. -/
theorem parse_text {l : Line} (hname : l.Unmistakable) : Sql.parse .mysql (String.ofList l.text) = .ok [l.statement] :=
  parse_of_scans (scans_text l) (semicolon_notMem_tokens l) (statement_tokens (rules l.tokens.length) hname)

end DumpSummary.Description
