import DumpSummary.Sql.Grammar.Schema

/-!
# The grammar of `CREATE`

A `CREATE` statement names a kind of object, the object and, for a table, its entries; properties may stand before
the kind, after the name, after the entries and at the end.  A statement of another form is kept as raw text, unless
a comma or a closing parenthesis shows that it was broken off.

## Contents

* `property`, `properties`: properties;
* `createBody`: the statement after its kind;
* `createStatement`: the statement.
-/

namespace DumpSummary.Sql.Grammar

open Parse

/-! ## Properties -/

/-- The value of a property, with or without an equals sign before it. -/
def propertyValue (g : Rules) : Parse Unit := do
  let _ ← sign "="
  let _ ← word "AS"
  match ← g.factor with
  | some _ => return ()
  | none => let _ ← need anyIdentifier

/-- The properties whose name is followed by a value. -/
def valuedProperties : List String :=
  ["ALGORITHM", "AUTO_INCREMENT", "CHARACTER SET", "CHARSET", "COLLATE", "COMMENT", "DEFINER", "ENGINE", "FORMAT",
    "LANGUAGE", "LOCATION", "ROW_FORMAT", "TABLESPACE", "USING", "TABLE_FORMAT", "TBLPROPERTIES"]

/-- The properties that are a word alone. -/
def bareProperties : List String :=
  ["EXTERNAL", "GLOBAL", "HYBRID", "ICEBERG", "IMMUTABLE", "LOCAL", "MATERIALIZED", "SECURE", "STABLE", "STRICT", "TEMP",
    "TEMPORARY", "TRANSIENT", "UNLOGGED", "VIRTUAL", "VOLATILE"]

/-- A property that begins with one of the known words. -/
def knownProperty (g : Rules) : Parse Bool := do
  match ← oneOf bareProperties with
  | some _ => return true
  | none =>
    match ← oneOf valuedProperties with
    | some _ => propertyValue g; return true
    | none =>
      if ← word "LIKE" then
        let _ ← likeTable
        return true
      else if ← word "INHERITS" then
        let _ ← wrapped (commaList (return some (TableName.toExpr (← tableName))))
        return true
      else if ← word "PARTITION BY" then
        let _ ← oneOf ["RANGE", "LIST", "HASH", "KEY"]
        if ← sign "(" then
          let _ ← commaList g.expression
          needSign ")"
        return true
      else if (← restoring do if ← word "RETURNS" then g.type else return none).isSome then return true
      else if ← word "ON" then
        if ← word "COMMIT" then
          let _ ← oneOf ["PRESERVE", "DELETE"]
          let _ ← word "ROWS"
        else
          let _ ← need identifier
          if ← peekParen then
            let _ ← wrappedNames
        return true
      else if (← peekWord "WITH") && (← second?) == some (.sign "(") then
        skip
        let _ ← wrapped (commaList g.comparison)
        return true
      else if (← peekWords ["WITH", "DATA"]) || (← peekWords ["WITH", "NO"]) then
        skip
        let _ ← word "NO"
        let _ ← word "DATA"
        return true
      else if ← words ["SQL", "SECURITY"] then
        let _ ← anyIdentifier
        return true
      else return false

/-- A name, an equals sign and a value. -/
def assignedProperty (g : Rules) : Parse Bool := do
  let tokens ← get
  match ← columnOf g with
  | none => return false
  | some _ =>
    if ← sign "=" then
      match ← g.factor with
      | some _ => return true
      | none => let _ ← need anyIdentifier; return true
    else set tokens; return false

/-- The options of a sequence. -/
def sequenceOption (g : Rules) : Parse Bool := do
  if (← word "START WITH") || (← words ["INCREMENT", "BY"]) then
    let _ ← need g.operand
    return true
  else if (← words ["NO", "MINVALUE"]) || (← words ["NO", "MAXVALUE"]) || (← words ["NO", "CYCLE"])
      || (← words ["NO", "CACHE"]) then return true
  else match ← oneOf ["INCREMENT", "START", "MINVALUE", "MAXVALUE", "CACHE"] with
    | some _ =>
      let _ ← sign "="
      let _ ← need g.operand
      return true
    | none =>
      if ← words ["OWNED", "BY"] then
        let _ ← need tableName?
        return true
      else return (← oneOf ["CYCLE", "NOCYCLE", "NOCACHE", "ORDER", "NOORDER", "NOMINVALUE", "NOMAXVALUE"]).isSome

/-- A property. -/
def property (g : Rules) : Parse (Option Unit) := do
  if ← knownProperty g then return some ()
  if (← peekWord "DEFAULT") then
    let tokens ← get
    skip
    if ← knownProperty g then return some ()
    set tokens
  if ← sequenceOption g then return some ()
  if ← assignedProperty g then return some ()
  return none

/-- Properties one after another; whether there is one. -/
def properties (g : Rules) : Parse Bool := do
  return !(← many (property g)).isEmpty

/-- The properties right after a name. -/
def leadingProperties (g : Rules) : Parse Unit := do
  let _ ← many (do
    let tokens ← get
    let _ ← word "DEFAULT"
    if ← knownProperty g then return some () else set tokens; return none)

/-! ## The statement -/

/-- The kinds of object that go by a table's name. -/
def namedKinds : List String := ["DATABASE", "SCHEMA", "SEQUENCE", "TABLE", "TYPE", "VIEW"]

/-- The words for a routine. -/
def routineKinds (d : Dialect) : List String :=
  ["FUNCTION", "PROCEDURE"] ++ if d = .sqlServer then ["PROC"] else []

/-- The words for an index. -/
def indexKinds (d : Dialect) : List String :=
  "INDEX" :: if d = .sqlServer then ["CLUSTERED INDEX", "NONCLUSTERED INDEX"] else []

/-- A query after a definition, in parentheses or not. -/
def definingQuery (g : Rules) : Parse (Option Expr) := do
  match ← wrappedQuery g with
  | some q => return some (← setOperations g q)
  | none => g.query

/-- A routine: its name, parameters, properties and body.  It goes by a name only without parameters. -/
def createRoutine (g : Rules) (kind : String) : Parse Statement := do
  let name ← tableName
  let hasParams ← if ← sign "(" then
      let _ ← commaList (do
        let _ ← oneOf ["IN", "OUT", "INOUT"]
        match ← identifier with
        | some _ =>
          let _ ← g.type
          if (← sign "=") || (← word "DEFAULT") then
            let _ ← need g.condition
          return some ()
        | none => return none)
      needSign ")"
      pure true
    else pure false
  let _ ← properties g
  let _ ← word "AS"
  let _ ← word "RETURN"
  match ← stringText with
  | some _ => pure ()
  | none =>
    let _ ← orElse (definingQuery g) g.condition
  let _ ← properties g
  return .create kind (if hasParams then none else some name) []

/-- An index: its name and the table with its columns. -/
def createIndex (g : Rules) (kind : String) : Parse Statement := do
  if !(← peekWord "ON") then
    let _ ← identifier
  let _ ← word "ON"
  let _ ← tableName
  let _ ← indexParams g
  if ← word "ON" then
    let _ ← identifier
  return .create kind none []

/-- The indexes that may follow a table's definition. -/
def trailingIndexes (g : Rules) : Parse Unit := do
  let _ ← many (restoring do
    let _ ← word "UNIQUE"
    let _ ← word "PRIMARY"
    if ← word "INDEX" then
      let _ ← identifier
      let _ ← indexParams g
      let _ ← properties g
      let _ ← sign ","
      return some ()
    else return none)

/-- What follows `AS` in the definition of a type. -/
def typeBody (g : Rules) : Parse Unit := do
  match ← g.type with
  | some _ => pure ()
  | none => let _ ← schemaItems g

/-- An object that goes by a table's name. -/
def createNamed (g : Rules) (kind : String) : Parse Statement := do
  let path ← tableName
  let name := if kind = "SCHEMA" then ⟨path.path ++ [⟨"", false⟩]⟩ else path
  let _ ← sign ","
  leadingProperties g
  let items := (← schemaItems g).getD []
  let _ ← properties g
  let named ← word "AS"
  let _ ← properties g
  if kind = "SEQUENCE" then
    let _ ← properties g
  else if kind = "TYPE" then
    if named then typeBody g
  else
    match ← definingQuery g with
    | some _ => pure ()
    | none =>
      if named then
        let _ ← attempt tableName?
  if kind = "TABLE" then
    let _ ← properties g
    trailingIndexes g
  else if kind = "VIEW" then
    let _ ← words ["WITH", "NO", "SCHEMA", "BINDING"]
  return .create kind (some name) items

/-- The statement after the word for its kind. -/
def createBody (g : Rules) (kind : String) : Parse Statement := do
  let d ← read
  let _ ← text "CONCURRENTLY"
  ifNotExists
  if (routineKinds d).contains kind then createRoutine g kind
  else if (indexKinds d).contains kind then createIndex g kind
  else createNamed g kind

/-- A `CREATE` statement, after its first word. -/
def createStatement (g : Rules) : Parse Statement := do
  let d ← read
  let raw : Parse Statement := do
    skipAll
    return .raw "CREATE"
  let _ ← words ["OR", "REPLACE"]
  let _ ← words ["OR", "ALTER"]
  let _ ← word "UNIQUE"
  let kinds := namedKinds ++ routineKinds d ++ indexKinds d
  let kind ← match ← oneOf kinds with
    | some k => pure (some k)
    | none =>
      let found ← attempt (do if ← properties g then return some () else return none)
      if found.isSome then oneOf kinds else pure none
  match kind with
  | none => raw
  | some kind =>
    let statement ← createBody g kind
    match ← next? with
    | none | some (.sign ")") | some (.sign ",") => return statement
    | some _ => raw

end DumpSummary.Sql.Grammar
