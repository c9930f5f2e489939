import DumpSummary.Sql.Grammar.Create

/-!
# The grammar of statements

Definitions, insertions and the choice of a database are kept; of the other statements only the kind.

## Contents

* `insertStatement`, `useStatement`: the statements that matter;
* `leadingWord`, `bareStatement`, `rawStatement`: the others, by their leading word;
* `statement`: a statement.
-/

namespace DumpSummary.Sql.Grammar

open Parse

/-! ## Insertion -/

/-- The words that ask what an insertion does with a row that is there already. -/
def conflictClause (g : Rules) : Parse Unit := do
  let conflict ← words ["ON", "CONFLICT"]
  let duplicate ← if conflict then pure false else words ["ON", "DUPLICATE", "KEY"]
  if !conflict && !duplicate then return
  if conflict then
    if ← words ["ON", "CONSTRAINT"] then
      let _ ← identifier
    else if ← sign "(" then
      let _ ← commaList (ordered g)
      needSign ")"
    let _ ← conditionClause g "WHERE"
  let action ← if ← word "DO" then need (oneOf ["NOTHING", "UPDATE"])
    else need (oneOf ["ABORT", "FAIL", "IGNORE", "REPLACE", "ROLLBACK", "UPDATE"])
  if action = "UPDATE" then
    let _ ← word "SET"
    let _ ← commaList g.comparison
  let _ ← conditionClause g "WHERE"

/-- The columns that an insertion gives back. -/
def returningClause (g : Rules) : Parse Unit := do
  let d ← read
  if (← word "RETURNING") || (← if d = .sqlServer then word "OUTPUT" else pure false) then
    let _ ← commaList g.expression
    if ← word "INTO" then
      let _ ← tableName

/-- The partition that an insertion goes into. -/
def partitionClause (g : Rules) : Parse Unit := do
  if ← word "PARTITION" then
    let _ ← wrapped (commaList g.condition)

/-- The target of an insertion: a table, or something that is none.  A name in which `VALUES` is written begins a list
of rows, in quotes as well. -/
def insertTarget (g : Rules) : Parse (Option TableName) := do
  if ← word "FUNCTION" then
    let _ ← need (call g)
    return none
  if (← rowsOf g).isSome then
    let _ ← relationAlias (.star [])
    return none
  match ← wrappedQuery g with
  | some _ => return none
  | none =>
    let _ ← word "ONLY"
    let t ← tableName
    let _ ← sign "*"
    partitionClause g
    let _ ← schemaItems g
    match ← read with
    | .oracle => let _ ← relationAlias (TableName.toExpr t)
    | _ =>
      if ← peekWord "AS" then
        let _ ← relationAlias (TableName.toExpr t)
    return some t

/-- The values of `SET` in an insertion of MySQL. -/
def assignedRow (g : Rules) : Parse (Option (List (List Expr))) := do
  if (← read) = .mysql && (← word "SET") then
    let values ← commaList (do
      match ← g.comparison with
      | some (.binary ⟨"=", _⟩ _ v) => return some v
      | some _ => reject
      | none => return none)
    return some [values]
  else return none

/-- The rows or the query that an insertion takes its rows from. -/
def insertSource (g : Rules) : Parse (Option (List (List Expr))) := do
  match ← assignedRow g with
  | some rows => return some rows
  | none =>
    match ← rowsOf g with
    | some rows =>
      let _ ← relationAlias (.star [])
      return some rows
    | none =>
      let _ ← definingQuery g
      return none

/-- An insertion into several tables. -/
def multipleInsert : Parse Statement := do
  skipAll
  return .other "multitableinserts"

/-- An `INSERT` statement, after its first word. -/
def insertStatement (g : Rules) : Parse Statement := do
  let d ← read
  let _ ← word "OVERWRITE"
  if d = .mysql then
    let _ ← oneOf ["LOW_PRIORITY", "DELAYED", "HIGH_PRIORITY"]
    let _ ← word "IGNORE"
  let _ ← word "LOCAL"
  let target ← if ← word "DIRECTORY" then
      let _ ← need (orElse stringName identifier)
      pure none
    else
      if (← peekWord "FIRST") || (← peekWord "ALL") then return ← multipleInsert
      if ← word "OR" then
        let _ ← oneOf ["ABORT", "FAIL", "IGNORE", "REPLACE", "ROLLBACK"]
      let _ ← word "INTO"
      let _ ← word "TABLE"
      insertTarget g
  returningClause g
  let _ ← words ["BY", "NAME"]
  ifExists
  let _ ← words ["OVERRIDING", "SYSTEM", "VALUE"]
  let _ ← words ["DEFAULT", "VALUES"]
  let rows ← insertSource g
  conflictClause g
  returningClause g
  return .insert target rows

/-! ## The choice of a database -/

/-- The kinds of object that can be chosen; any other word is the object itself. -/
def usableKinds : List String := ["ROLE", "WAREHOUSE", "DATABASE", "SCHEMA", "CATALOG"]

/-- A `USE` statement, after its first word. -/
def useStatement (g : Rules) : Parse Statement := do
  let _ ← oneWritten usableKinds
  match ← wrappedQuery g with
  | some _ => return .use (some "")
  | none =>
    let t ← tableName
    let _ ← relationAlias (TableName.toExpr t)
    return .use (some t.name)

/-! ## Other statements -/

/-- The kinds of object that a statement can drop or comment on. -/
def objectKinds : List String :=
  ["COLUMN", "CONSTRAINT", "DATABASE", "FUNCTION", "INDEX", "PROCEDURE", "SCHEMA", "SEQUENCE", "TABLE", "TYPE", "VIEW"]

/-- A `DROP` statement. -/
def dropStatement (g : Rules) : Parse Statement := do
  let _ ← oneOf ["TEMPORARY", "TEMP"]
  let _ ← word "MATERIALIZED"
  match ← oneOf objectKinds with
  | none => skipAll; return .raw "DROP"
  | some _ =>
    let _ ← text "CONCURRENTLY"
    ifExists
    let _ ← commaList (return some (← tableName))
    if ← sign "(" then
      let _ ← commaList g.type
      needSign ")"
    if ← word "ON" then
      let _ ← tableName
    let _ ← oneOf ["CASCADE", "RESTRICT"]
    let _ ← word "CONSTRAINTS"
    let _ ← word "PURGE"
    return .other "drop"

/-- A change of a table.  A change that is not known is kept as raw text, under the same word. -/
def alterStatement (g : Rules) : Parse Statement := do
  match ← oneOf ["TABLE", "VIEW", "SESSION"] with
  | some "TABLE" =>
    ifExists
    let _ ← word "ONLY"
    let _ ← tableName
    let _ ← schemaItems g
    if ← word "ADD" then
      let _ ← commaList (do
        let _ ← word "COLUMN"
        ifNotExists
        orElse (tableConstraint g) (columnEntry g))
  | _ => pure ()
  skipAll
  return .other "alter"

/-- A change of rows. -/
def updateStatement (g : Rules) : Parse Statement := do
  let _ ← relationAliasBut ["SET", "LIMIT", "OFFSET"] (← relationBase g)
  let _ ← joins g
  if ← word "SET" then
    let _ ← commaList g.comparison
  returningClause g
  let _ ← fromClause g
  let _ ← modifiers g
  returningClause g
  return .other "update"

/-- A removal of rows. -/
def deleteStatement (g : Rules) : Parse Statement := do
  if !(← peekWord "FROM") then
    let _ ← commaList (return some (← relation g))
  let _ ← fromClause g
  if ← word "USING" then
    let _ ← commaList (return some (← relation g))
  let _ ← modifiers g
  returningClause g
  return .other "delete"

/-- The start of a transaction. -/
def transactionStatement : Parse Statement := do
  let _ ← oneOf ["DEFERRED", "IMMEDIATE", "EXCLUSIVE"]
  let named ← oneOf (["TRANSACTION", "WORK"] ++ if (← read) = .sqlServer then ["TRAN"] else [])
  if (← read) = .sqlServer && named.isNone then
    skipAll
    return .raw "BEGIN"
  let _ ← commaItems (do
    let found ← many bareWord
    return if found.isEmpty then none else some found)
  return .other "transaction"

/-- The end of a transaction. -/
def endStatement (key : String) : Parse Statement := do
  let _ ← oneOf ["TRANSACTION", "WORK"]
  if ← word "TO" then
    let _ ← word "SAVEPOINT"
    let _ ← identifier
  if ← word "AND" then
    let _ ← word "NO"
    let _ ← word "CHAIN"
  return .other key

/-- The emptying of tables. -/
def truncateStatement : Parse Statement := do
  let _ ← word "DATABASE"
  let _ ← word "TABLE"
  ifExists
  let _ ← commaList (return some (← tableName))
  let _ ← words ["RESTART", "IDENTITY"]
  let _ ← words ["CONTINUE", "IDENTITY"]
  let _ ← oneOf ["CASCADE", "RESTRICT"]
  if ← atEnd then return .other "truncatetable"
  skipAll
  return .raw "TRUNCATE"

/-- A comment on an object. -/
def commentStatement : Parse Statement := do
  ifExists
  let _ ← word "ON"
  match ← oneOf objectKinds with
  | none => skipAll; return .raw "COMMENT"
  | some _ =>
    let _ ← tableName
    let _ ← word "IS"
    if (← stringText).isNone then
      let _ ← word "NULL"
    return .other "comment"

/-- A setting.  A setting of another form is kept as raw text, under the same word. -/
def setStatement (g : Rules) : Parse Statement := do
  let tokens ← get
  match ← columnOf g with
  | some _ => if (← sign "=") || (← word "TO") then let _ ← g.expression
  | none => set tokens
  skipAll
  return .other "set"

/-- A description of a table or of the plan of a query. -/
def describeStatement (g : Rules) : Parse Statement := do
  match ← definingQuery g with
  | some _ => return .other "describe"
  | none =>
    let _ ← oneOf ["EXTENDED", "FORMATTED"]
    let _ ← word "TABLE"
    let _ ← tableName
    return .other "describe"

/-- A copy of a table. -/
def copyStatement (g : Rules) : Parse Statement := do
  let _ ← word "INTO"
  match ← wrappedQuery g with
  | some _ => pure ()
  | none =>
    let _ ← tableName
    let _ ← schemaItems g
  skipAll
  return .other "copy"

/-- The statements of which nothing is looked at but the first word. -/
def opaqueKinds (d : Dialect) : List (String × String) :=
  [("ANALYZE", "analyze"), ("GRANT", "grant"), ("REVOKE", "revoke"), ("KILL", "kill"), ("LOAD", "loaddata"),
    ("MERGE", "merge"), ("CACHE", "cache"), ("UNCACHE", "uncache")]
  ++ (if d = .mysql then [("SHOW", "show"), ("EXECUTE", "execute")] else [])
  ++ (if d = .sqlServer then [("DECLARE", "declare"), ("EXEC", "execute"), ("EXECUTE", "execute")] else [])

/-- A statement of the kind that its first word shows. -/
def leadingWord (g : Rules) (key : String) : Parse (Option Statement) := do
  let d ← read
  let take (p : Parse Statement) : Parse (Option Statement) := do
    skip
    return some (← p)
  match key with
  | "USE" => take (useStatement g)
  | "CREATE" => take (createStatement g)
  | "INSERT" => take (insertStatement g)
  | "DROP" => take (dropStatement g)
  | "ALTER" => take (alterStatement g)
  | "UPDATE" => if (rawWords d).contains "UPDATE STATISTICS" && (← peekWords ["UPDATE", "STATISTICS"]) then
      take (do skipAll; return .raw "UPDATE STATISTICS") else take (updateStatement g)
  | "DELETE" => take (deleteStatement g)
  | "BEGIN" => take transactionStatement
  | "START" => if d = .mysql || d = .oracle then take transactionStatement else return none
  | "COMMIT" => take (endStatement "commit")
  | "END" => take (endStatement "commit")
  | "ROLLBACK" => take (endStatement "rollback")
  | "TRUNCATE" => if (← second?) == some (.sign "(") then return none else take truncateStatement
  | "COMMENT" => take commentStatement
  | "SET" => take (setStatement g)
  | "PRAGMA" => take (do
      let _ ← need g.expression
      return .other "pragma")
  | "DESCRIBE" | "DESC" => take (describeStatement g)
  | "EXPLAIN" => if d = .mysql then take (describeStatement g) else return none
  | "COPY" => take (copyStatement g)
  | _ =>
    match (opaqueKinds d).lookup key with
    | some kind => take (do skipAll; return .other kind)
    | none => return none

/-- A statement that is an expression or a query. -/
def bareStatement (g : Rules) : Parse (Option Statement) := do
  match ← g.query with
  | some q => return some (.other q.key)
  | none =>
    match ← g.expression with
    | none => return none
    | some e =>
      if isQuery e then
        let q ← setOperations g e
        let _ ← modifiers g
        return some (.other q.key)
      else return some (.other e.key)

/-- A statement kept as raw text. -/
def rawStatement : Parse (Option Statement) := do
  match ← oneOf (rawWords (← read)) with
  | some key => skipAll; return some (.raw key)
  | none => return none

/-- A statement that begins with its own word. -/
def ownStatement (g : Rules) : Parse (Option Statement) := do
  match ← peekKeyword? with
  | none => return none
  | some key => orElse (leadingWord g key) rawStatement

/-- A statement.  Queries may be named before any statement that uses them. -/
def statement (g : Rules) : Parse (Option Statement) := do
  match ← ownStatement g with
  | some s => return some s
  | none =>
    let named ← restoring do
      match ← namedQueries g with
      | none => return none
      | some _ => ownStatement g
    match named with
    | some s => return some s
    | none => bareStatement g

end DumpSummary.Sql.Grammar
