import DumpSummary.Sql.Grammar.Query
import DumpSummary.Sql.Render

/-!
# The grammar of table definitions

The entries between the parentheses of a table's definition: columns with their options, and constraints.

## Contents

* `keyOptions`, `references`: what may follow a key;
* `tableConstraint`: a constraint of the table;
* `columnOption`: an option of a column;
* `columnEntry`: a column, or an entry that is only a name;
* `schemaItems`: the entries.
-/

namespace DumpSummary.Sql.Grammar

open Parse

/-- A word of a phrase. -/
def wordExpr (s : String) : Expr := .word "var" s

/-! ## Keys and references -/

/-- What happens to referring rows. -/
def referenceAction : Parse String := do
  if ← words ["NO", "ACTION"] then return "NO ACTION"
  else if ← word "CASCADE" then return "CASCADE"
  else if ← word "RESTRICT" then return "RESTRICT"
  else if ← words ["SET", "NULL"] then return "SET NULL"
  else if ← words ["SET", "DEFAULT"] then return "SET DEFAULT"
  else reject

/-- The text of any token but a mark, as written. -/
def anyText : Parse (Option String) := return (← anyIdentifier).map Ident.text

/-- The further options of a key, each with the words that may follow it. -/
def keyWords : List (String × List String) :=
  [("NOT", ["ENFORCED"]), ("MATCH", ["FULL", "PARTIAL", "SIMPLE"]), ("INITIALLY", ["DEFERRED", "IMMEDIATE"]),
    ("USING", ["BTREE", "HASH"]), ("DEFERRABLE", []), ("NORELY", []), ("RELY", [])]

/-- One of the further options of a key. -/
def keyOption : Parse (Option String) := restoring do
  match ← oneOf (keyWords.map (·.1)) with
  | none => return none
  | some first =>
    match keyWords.lookup first with
    | some [] | none => return some first
    | some nexts => return (← oneOf nexts).map fun next => first ++ " " ++ next

/-- The options of a key: what happens to referring rows, and others. -/
def keyOptions : Parse (List Expr) :=
  many do
    if ← word "ON" then
      match ← anyText with
      | some event => return some (wordExpr ("ON " ++ event ++ " " ++ (← referenceAction)))
      | none => reject
    else return (← keyOption).map wordExpr

/-- A table with names of its columns, where a reference or an insertion has them: `columns` reads an entry. -/
def tableWithColumns (columns : Parse (Option Expr)) : Parse Expr := do
  let t ← tableName
  if ← sign "(" then
    let items ← commaList columns
    needSign ")"
    return .phrase "schema" [TableName.toExpr t, .tuple items]
  else return TableName.toExpr t

/-- An item of a list of columns: a name or a call. -/
def columnItem (g : Rules) : Parse (Option Expr) := fieldOf g true

/-- A reference to another table, after its keyword. -/
def references (g : Rules) : Parse (List Expr) := do
  let target ← tableWithColumns (columnItem g)
  return [wordExpr "REFERENCES", target] ++ (← keyOptions)

/-- The names in parentheses. -/
def wrappedNames : Parse Expr := do
  let names ← wrapped (commaList anyIdentifier)
  return .tuple (names.map fun i => .column [i])

/-- The parameters of an index after its columns. -/
def indexParams (g : Rules) : Parse (List Expr) := do
  let method ← if ← word "USING" then
      match ← anyText with
      | some name => pure [wordExpr ("USING " ++ name)]
      | none => pure []
    else pure []
  let columns ← if ← peekParen then pure [Expr.tuple (← wrapped (commaList (ordered g)))] else pure []
  let included ← if ← word "INCLUDE" then pure [wordExpr "INCLUDE", ← wrappedNames] else pure []
  let options ← if (← peekWord "WITH") && (← second?) == some (.sign "(") then
      skip
      pure [wordExpr "WITH", Expr.tuple (← wrapped (commaList g.comparison))]
    else pure []
  let condition ← conditionClause g "WHERE"
  return method ++ columns ++ included ++ options ++ condition

/-- A primary key, after its keyword: of some columns, or, as an option, of the column before it. -/
def primaryKey (g : Rules) : Parse (Bool × Expr) := do
  let direction ← oneOf ["ASC", "DESC"]
  if ← peekParen then
    let columns ← wrapped (commaList (keyColumn))
    let params ← indexParams g
    return (true, .phrase "primarykey" ([wordExpr "PRIMARY KEY", .tuple columns] ++ params ++ (← keyOptions)))
  else
    return (false, .phrase "primarykeycolumnconstraint"
      ([wordExpr "PRIMARY KEY"] ++ (direction.toList.map wordExpr) ++ (← keyOptions)))
where
  /-- A column of a key.  In MySQL it may be cut to a length. -/
  keyColumn : Parse (Option Expr) := do
    if (← read) = .mysql then
      match ← anyIdentifier with
      | none => return none
      | some i =>
        let length ← if ← sign "(" then
            let n ← need numberText
            needSign ")"
            pure (some n) else pure none
        let base := match length with
          | some n => Expr.call "columnprefix" ⟨(i.render .mysql), false⟩ [.number n]
          | none => .column [i]
        match ← oneOf ["ASC", "DESC"] with
        | some way => return some (.phrase "ordered" [base, wordExpr way])
        | none => return some base
    else ordered g

/-- A foreign key, after its keyword. -/
def foreignKey (g : Rules) : Parse Expr := do
  let columns ← if ← peekWord "REFERENCES" then pure [] else pure [← wrappedNames]
  let target ← if ← word "REFERENCES" then references g else pure []
  return .phrase "foreignkey" ([wordExpr "FOREIGN KEY"] ++ columns ++ target ++ (← keyOptions))

/-- The words that begin an option of a column. -/
def columnOptionWords : List String :=
  ["AUTOINCREMENT", "AUTO_INCREMENT", "CASESPECIFIC", "CHARACTER SET", "CHARSET", "CHECK", "CLUSTERED", "COLLATE",
    "COMMENT", "COMPRESS", "DEFAULT", "ENCODE", "EPHEMERAL", "EXCLUDE", "FOREIGN KEY", "FORMAT", "GENERATED",
    "IDENTITY", "INLINE", "LIKE", "NONCLUSTERED", "NOT", "NULL", "ON", "PATH", "PERIOD", "PRIMARY KEY", "REFERENCES",
    "TITLE", "TTL", "UNIQUE", "UPPERCASE", "WITH", "ZEROFILL", "INVISIBLE", "VISIBLE", "ROWGUIDCOL", "SPARSE"]

/-- The name of a uniqueness constraint.  Except in SQL Server a word that begins an option is not taken for it. -/
def uniqueName : Parse (Option Ident) := do
  let d ← read
  match ← peekKeyword? with
  | some key =>
    if key = "USING" || (d ≠ .sqlServer && columnOptionWords.contains key) then return none else identifier
  | none => identifier

/-- A uniqueness constraint, after its keyword. -/
def uniqueKey (g : Rules) : Parse Expr := do
  let _ ← oneOf ["KEY", "INDEX"]
  let nulls ← if ← words ["NULLS", "NOT", "DISTINCT"] then pure [wordExpr "NULLS NOT DISTINCT"] else pure []
  let name ← uniqueName
  let columns ← if ← sign "(" then
      let items ← commaList (do
        match ← columnItem g with
        | none => return none
        | some e =>
          match ← oneOf ["ASC", "DESC"] with
          | some way => return some (.phrase "ordered" [e, wordExpr way])
          | none => return some e)
      needSign ")"
      pure [Expr.tuple items]
    else pure []
  let method ← if ← word "USING" then pure ((← anyText).toList.map fun m => wordExpr ("USING " ++ m)) else pure []
  return .phrase "uniquecolumnconstraint"
    ([wordExpr "UNIQUE"] ++ nulls ++ name.toList.map (fun i => .column [i]) ++ columns ++ method ++ (← keyOptions))

/-- A condition that rows must meet, after its keyword. -/
def checkCondition (g : Rules) : Parse Expr := do
  let e ← wrapped (need g.condition)
  let enforced ← if ← word "ENFORCED" then pure [wordExpr "ENFORCED"] else pure []
  return .phrase "checkcolumnconstraint" ([wordExpr "CHECK", .paren e] ++ enforced)

/-- An option of an index in MySQL. -/
def indexOption : Parse (Option Expr) := do
  if ← word "KEY_BLOCK_SIZE" then
    let _ ← sign "="
    return (← numberText).map fun n => wordExpr ("KEY_BLOCK_SIZE = " ++ n)
  else if ← word "USING" then return (← anyText).map fun m => wordExpr ("USING " ++ m)
  else if ← word "COMMENT" then
    match ← stringText with
    | some s => return some (.phrase "comment" [wordExpr "COMMENT", .string .plain s])
    | none => reject
  else return (← oneOf ["VISIBLE", "INVISIBLE"]).map wordExpr

/-- An index among the entries of a table in MySQL, after its keyword. -/
def tableIndex (g : Rules) (kind : Option String) : Parse Expr := do
  if kind.isSome then
    let _ ← oneOf ["INDEX", "KEY"]
  let name ← identifier
  let method ← if ← word "USING" then pure ((← anyText).toList.map fun m => wordExpr ("USING " ++ m)) else pure []
  let columns ← wrapped (commaList (ordered g))
  let options ← many indexOption
  return .phrase "indexcolumnconstraint"
    (kind.toList.map wordExpr ++ [wordExpr "INDEX"] ++ name.toList.map (fun i => .column [i]) ++ method
      ++ [.tuple columns] ++ options)

/-- The table whose definition is taken over, with the parts to take, after its keyword: as each dialect writes
it. -/
def likeTable : Parse Expr := do
  let d ← read
  let t ← tableName
  let options ← many (do
    match ← oneOf ["INCLUDING", "EXCLUDING"] with
    | some w =>
      match ← anyText with
      | some part => return some (wordExpr (w ++ " " ++ Text.upper part))
      | none => reject
    | none => return none)
  let body := [wordExpr "LIKE", TableName.toExpr t] ++ options
  match d with
  | .postgres => return .phrase "likeproperty" [.paren (.phrase "likeproperty" body)]
  | .sqlite =>
    return .phrase "likeproperty" [wordExpr "AS SELECT * FROM", TableName.toExpr t, wordExpr "LIMIT 0"]
  | _ => return .phrase "likeproperty" body

/-! ## Columns -/

/-- How the values of a column are generated, after the keyword. -/
def generated (g : Rules) : Parse Expr := do
  if ← words ["BY", "DEFAULT"] then
    let _ ← words ["ON", "NULL"]
  else
    let _ ← word "ALWAYS"
  let _ ← word "AS"
  if ← words ["ROW", "START"] then pure ()
  else if ← words ["ROW", "END"] then pure ()
  else
    let identity ← word "IDENTITY"
    if ← sign "(" then
      if identity then
        let _ ← many (do
          if ← word "START WITH" then return (← g.operand).map fun _ => ()
          else if ← words ["INCREMENT", "BY"] then return (← g.operand).map fun _ => ()
          else if (← oneOf ["MINVALUE", "MAXVALUE", "CACHE", "INCREMENT", "START"]).isSome then
            return (← g.operand).map fun _ => ()
          else if (← oneOf ["CYCLE", "NOCYCLE", "NOCACHE", "NO"]).isSome then return some ()
          else return none)
        let _ ← commaList g.operand
      else
        let _ ← need g.condition
      needSign ")"
  let _ ← oneOf ["STORED", "VIRTUAL", "PERSISTED"]
  return wordExpr "GENERATED"

/-- The option of a column that begins with a word. -/
def columnOptionOf (g : Rules) (key : String) : Parse Expr := do
  let plain := wordExpr key
  match key with
  | "CHARACTER SET" | "CHARSET" =>
    match ← anyText with
    | some s => return .phrase "charset" [wordExpr "CHARACTER SET", wordExpr s]
    | none => reject
  | "CHECK" => checkCondition g
  | "COLLATE" => return .phrase "collate" [plain, ← need g.operand]
  | "COMMENT" =>
    match ← stringText with
    | some s => return .phrase "comment" [plain, .string .plain s]
    | none => reject
  | "DEFAULT" => return .phrase "default" [plain, ← need g.operand]
  | "FOREIGN KEY" => foreignKey g
  | "GENERATED" => generated g
  | "IDENTITY" | "AUTOINCREMENT" | "AUTO_INCREMENT" =>
    if ← sign "(" then
      let items ← commaList g.operand
      needSign ")"
      return .phrase "identity" [plain, .tuple items]
    else if (← peekWord "START WITH") && key = "IDENTITY" then
      skip
      return .phrase "identity" [plain, ← need g.operand]
    else return plain
  | "CLUSTERED" | "NONCLUSTERED" =>
    if ← peekParen then
      let columns ← wrapped (commaList (ordered g))
      return .phrase "clusteredcolumnconstraint" [plain, .tuple columns]
    else return plain
  | "LIKE" => likeTable
  | "NOT" =>
    if ← word "NULL" then return wordExpr "NOT NULL"
    else if ← word "CASESPECIFIC" then return wordExpr "NOT CASESPECIFIC"
    else if ← words ["FOR", "REPLICATION"] then return wordExpr "NOT FOR REPLICATION"
    else reject
  | "ON" =>
    if ← word "UPDATE" then
      match ← call g with
      | some e => return .phrase "onupdate" [wordExpr "ON UPDATE", e]
      | none => reject
    else if ← word "CONFLICT" then
      match ← oneOf ["IGNORE", "REPLACE", "ABORT", "FAIL", "ROLLBACK"] with
      | some w => return wordExpr ("ON CONFLICT " ++ w)
      | none => reject
    else
      match ← identifier with
      | some i => return .phrase "on" [plain, .column [i]]
      | none => reject
  | "PRIMARY KEY" => return (← primaryKey g).2
  | "REFERENCES" => return .phrase "reference" (← references g)
  | "UNIQUE" => uniqueKey g
  | "ENCODE" | "FORMAT" | "TITLE" | "PATH" =>
    match ← anyText with
    | some s => return .phrase "option" [plain, wordExpr s]
    | none => reject
  | "WITH" =>
    let items ← wrapped (commaList g.comparison)
    return .phrase "with" [plain, .tuple items]
  | _ => return plain

/-- An option of a column, which may have a name. -/
def columnOption (g : Rules) : Parse (Option Expr) := do
  if ← word "CONSTRAINT" then
    let name ← need anyIdentifier
    match ← oneOf (← optionWords) with
    | some key => return some (.phrase "constraint" [wordExpr "CONSTRAINT", .column [name], ← columnOptionOf g key])
    | none => return some (.column [name])
  else
    match ← oneOf (← optionWords) with
    | some key => return some (← columnOptionOf g key)
    | none => return none
where
  /-- The words that begin an option in the dialect. -/
  optionWords : Parse (List String) := do
    let d ← read
    let mysqlOnly := ["ZEROFILL", "INVISIBLE", "VISIBLE"]
    let serverOnly := ["ROWGUIDCOL", "SPARSE"]
    return columnOptionWords.filter fun w =>
      (d = .mysql || !mysqlOnly.contains w) && (d = .sqlServer || !serverOnly.contains w)

/-- The words after a type that MySQL passes over. -/
def typeModifiers : Parse Unit := do
  if (← read) = .mysql then
    let _ ← many (oneOf ["SIGNED", "BINARY", "ZEROFILL"])

/-- A column with its type and options.  What has neither is an entry that is only a name or a call. -/
def columnEntry (g : Rules) : Parse (Option SchemaItem) := do
  match ← fieldOf g true with
  | none => return none
  | some field =>
    let type ← g.type
    if type.isSome then typeModifiers
    let computed ← if ← word "AS" then
        let e ← need g.condition
        let _ ← oneOf ["PERSISTED", "STORED", "VIRTUAL"]
        pure [e]
      else pure []
    let options ← many (columnOption g)
    if type.isNone && computed.isEmpty && options.isEmpty then
      return some (.constraint (.other (entryKey field)) field)
    else return some (.column ⟨entryName field, type⟩)
where
  /-- The kind of an entry that is only a name or a call. -/
  entryKey : Expr → String
    | .column _ => "identifier"
    | e => e.key
  /-- The name of a column. -/
  entryName : Expr → String
    | .column [i] => i.text
    | .column path => (path.getLast?.map Ident.text).getD ""
    | .string _ text => text
    | .number text => text
    | .word "null" text => text
    | .star _ => "*"
    | .call _ _ _ => ""
    | .paren (.column [i]) => i.text
    | _ => ""

/-! ## Constraints -/

/-- The words that begin a constraint without a name. -/
def constraintWords (d : Dialect) : List String :=
  ["CHECK", "FOREIGN KEY", "LIKE", "PRIMARY KEY", "UNIQUE"]
  ++ if d = .mysql then ["FULLTEXT", "INDEX", "KEY", "SPATIAL"] else []

/-- A constraint that begins with a word. -/
def constraintOf (g : Rules) (key : String) : Parse SchemaItem := do
  match key with
  | "CHECK" => return .constraint .check (← checkCondition g)
  | "FOREIGN KEY" => return .constraint .foreignKey (← foreignKey g)
  | "LIKE" => return .constraint (.other "likeproperty") (← likeTable)
  | "PRIMARY KEY" =>
    let (ofColumns, body) ← primaryKey g
    return .constraint (if ofColumns then .primaryKey else .other "primarykeycolumnconstraint") body
  | "UNIQUE" => return .constraint .unique (← uniqueKey g)
  | "FULLTEXT" | "SPATIAL" => return .constraint (.other "indexcolumnconstraint") (← tableIndex g (some key))
  | _ => return .constraint (.other "indexcolumnconstraint") (← tableIndex g none)

/-- The parts of a constraint with a name: options and calls. -/
def constraintParts (g : Rules) : Parse (List Expr) := do
  let d ← read
  let keys := columnOptionWords ++ if d = .mysql then ["FULLTEXT", "INDEX", "KEY", "SPATIAL"] else []
  many do
    match ← oneOf keys with
    | some key =>
      if key = "FULLTEXT" || key = "SPATIAL" then return some (← tableIndex g (some key))
      else if key = "INDEX" || key = "KEY" then return some (← tableIndex g none)
      else return some (← columnOptionOf g key)
    | none => call g

/-- A constraint of the table. -/
def tableConstraint (g : Rules) : Parse (Option SchemaItem) := do
  if ← word "CONSTRAINT" then
    let name ← need anyIdentifier
    let parts ← constraintParts g
    if parts.isEmpty then reject
    return some (.constraint .named (.phrase "constraint" ([wordExpr "CONSTRAINT", .column [name]] ++ parts)))
  else
    match ← oneOf (constraintWords (← read)) with
    | some key => return some (← constraintOf g key)
    | none => return none

/-- The entries of a definition in parentheses.  A query in parentheses is none. -/
def schemaItems (g : Rules) : Parse (Option (List SchemaItem)) := do
  if !(← peekParen) then return none
  match ← second? with
  | some (.sign "(") => return none
  | some t =>
    if keyword? t == some "SELECT" || keyword? t == some "WITH" then return none
    skip
    let items ← commaList (orElse (tableConstraint g) (columnEntry g))
    needSign ")"
    return some items
  | none => skip; reject

end DumpSummary.Sql.Grammar
