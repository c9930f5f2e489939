import DumpSummary.Sql.Grammar.Expression

/-!
# The grammar of queries

## Contents

* `tableName`: the dotted name of a table;
* `ordered`: an item to order by;
* `relation`: a table, a subquery or a list of rows, with its name;
* `rowsOf`, `rowList`: rows of values;
* `queryOf`: a query with its set operations.
-/

namespace DumpSummary.Sql.Grammar

open Parse

/-! ## Tables -/

/-- A part of a table's name: a name or a string. -/
def tablePart : Parse (Option Ident) := orElse identifier stringName

/-- The dotted name of a table; a part between two points may be missing. -/
def tableName? : Parse (Option TableName) := do
  match ← tablePart with
  | none => return none
  | some first =>
    let (path, closed) ← iterate (fun (path, _) => do
      if ← sign "." then
        match ← tablePart with
        | some i => return some (i :: path, true)
        | none => return some (⟨"", false⟩ :: path, false)
      else return none) ([first], true)
    if closed then return some ⟨path.reverse⟩ else reject

/-- The dotted name of a table, which has to be there. -/
def tableName : Parse TableName := need tableName?

/-- A table as an expression. -/
def TableName.toExpr (t : TableName) : Expr := .column t.path

/-- The name given to a relation, with names for its columns; the `excluded` words are taken for a name only
behind `AS`. -/
def relationAliasBut (excluded : List String) (e : Expr) : Parse Expr := do
  let explicit ← word "AS"
  let plainName : Parse (Option Ident) :=
    take? fun t => (asName t).filter fun i => i.quoted || !(joinWords ++ excluded).contains (Text.upper i.text)
  let name ← if explicit then orElse anyIdentifier stringName else orElse plainName stringName
  match name with
  | none => return e
  | some i =>
    let columns ← restoring do
      if ← sign "(" then
        let names ← commaList identifier
        if ← sign ")" then return some names else return none
      else return none
    let name := match columns with
      | some names => Expr.call "tablealias" i (names.map fun n => .column [n])
      | none => .column [i]
    match ← read with
    | .oracle => return .phrase "alias" [e, name]
    | _ => return .phrase "alias" [e, .word "var" "AS", name]

/-- The name given to a relation, which may not be a word that begins a limit. -/
def relationAlias (e : Expr) : Parse Expr := relationAliasBut ["LIMIT", "OFFSET"] e

/-- An item to order by. -/
def ordered (g : Rules) : Parse (Option Expr) := do
  match ← g.condition with
  | none => return none
  | some e =>
    let direction ← oneOf ["ASC", "DESC"]
    let nulls ← if ← words ["NULLS", "FIRST"] then pure ["NULLS FIRST"]
      else if ← words ["NULLS", "LAST"] then pure ["NULLS LAST"] else pure []
    match direction.toList ++ nulls with
    | [] => return some e
    | parts => return some (.phrase "ordered" (e :: parts.map (.word "var")))

/-! ## Rows -/

/-- The values of a row.  `DEFAULT` is a value here. -/
def rowValue (g : Rules) : Parse (Option Expr) := do
  if ← word "DEFAULT" then return some (.word "var" "DEFAULT") else g.expression

/-- A row: values in parentheses, or one value without them. -/
def rowOf (g : Rules) : Parse (Option (List Expr)) := do
  if ← sign "(" then
    let values ← commaList (rowValue g)
    needSign ")"
    return some values
  else return (← g.expression).map ([·])

/-- The rows after `VALUES`; there has to be one. -/
def rowList (g : Rules) : Parse (List (List Expr)) := do
  let rows ← commaList (rowOf g)
  if rows.isEmpty then reject
  return rows

/-- Whether a list of rows begins. -/
def rowsWord : Parse Bool := do
  if ← text "VALUES" then return true else texts ["FORMAT", "VALUES"]

/-- A list of rows, possibly in parentheses. -/
def rowsOf (g : Rules) : Parse (Option (List (List Expr))) := do
  if (← peekParen) && (← second?).bind keyword? == some "VALUES" then
    skip
    skip
    let rows ← rowList g
    needSign ")"
    return some rows
  else if ← rowsWord then return some (← rowList g)
  else return none

/-- Rows as an expression. -/
def rowsExpr (rows : List (List Expr)) : Expr :=
  .query "values" [.clause "VALUES" (rows.map .tuple)]

/-! ## Relations -/

/-- A relation that a query reads from, without a name given to it. -/
def relationBase (g : Rules) : Parse Expr := do
  let _ ← word "LATERAL"
  let base ←
    match ← rowsOf g with
    | some rows => pure (rowsExpr rows)
    | none =>
      if ← peekParen then
        skip
        match ← g.query with
        | some q => needSign ")"; pure (.subquery q)
        | none =>
          let t ← tableName
          needSign ")"
          pure (.paren (TableName.toExpr t))
      else
        let _ ← word "ONLY"
        let isCall := match ← next?, ← second? with
          | some (.word _ _), some (.sign "(") => true
          | _, _ => false
        match ← if isCall then call g else pure none with
        | some f => pure f
        | none => pure (TableName.toExpr (← tableName))
  let _ ← sign "*"
  return base

/-- A relation that a query reads from, with the name given to it. -/
def relation (g : Rules) : Parse Expr := do
  relationAlias (← relationBase g)

/-- The words before `JOIN`. -/
def joinKind : Parse (Option String) := restoring do
  let natural ← oneOf ["NATURAL"]
  let side ← oneOf ["LEFT", "RIGHT", "FULL"]
  let kind ← oneOf ["INNER", "OUTER", "CROSS", "SEMI", "ANTI"]
  if ← word "JOIN" then
    return some (String.intercalate " " (natural.toList ++ side.toList ++ kind.toList ++ ["JOIN"]))
  else if natural.isNone && side.isNone && kind.isNone && (← word "STRAIGHT_JOIN") then return some "STRAIGHT_JOIN"
  else return none

/-- The joins after a relation. -/
def joins (g : Rules) : Parse (List Expr) := do
  let found ← many (do
    match ← joinKind with
    | none => return none
    | some kind =>
      let right ← relation g
      if ← word "ON" then return some [.clause kind [right], .clause "ON" [← need g.condition]]
      else if ← word "USING" then
        let columns ← wrapped (commaList identifier)
        return some [.clause kind [right], .phrase "using" [.word "var" "USING", .tuple (columns.map fun i => .column [i])]]
      else return some [.clause kind [right]])
  return found.flatten

/-- The relations after `FROM`. -/
def fromClause (g : Rules) : Parse (List Expr) := do
  if !(← word "FROM") then return []
  let first ← relation g
  let rest ← many (do if ← sign "," then return some (← relation g) else return none)
  return .clause "FROM" (first :: rest) :: (← joins g)

/-- A clause of a keyword and one condition. -/
def conditionClause (g : Rules) (key : String) : Parse (List Expr) := do
  if ← word key then return [.clause key [← need g.condition]] else return []

/-- A clause of a keyword and a list. -/
def listClause (key : String) (item : Parse (Option Expr)) : Parse (List Expr) := do
  if ← word key then return [.clause key (← commaList item)] else return []

/-- The limit of a query. -/
def limitClause (g : Rules) : Parse (List Expr) := do
  if ← word "LIMIT" then
    let first ← need g.operand
    if ← sign "," then
      let count ← need g.operand
      return [.clause "LIMIT" [count], .clause "OFFSET" [first]]
    else return [.clause "LIMIT" [first]]
  else if ← word "FETCH" then
    let _ ← oneOf ["FIRST", "NEXT"]
    let count ← g.operand
    let _ ← oneOf ["ROW", "ROWS"]
    let _ ← word "ONLY"
    return [.phrase "fetch" ([.word "var" "FETCH FIRST"] ++ count.toList ++ [.word "var" "ROWS ONLY"])]
  else return []

/-- What may follow the relations of a query. -/
def modifiers (g : Rules) : Parse (List Expr) := do
  let condition ← conditionClause g "WHERE"
  let groups ← listClause "GROUP BY" g.condition
  let having ← conditionClause g "HAVING"
  let order ← listClause "ORDER BY" (ordered g)
  let limit ← limitClause g
  let offset ← if ← word "OFFSET" then
      let e ← need g.operand
      let _ ← oneOf ["ROW", "ROWS"]
      pure [Expr.clause "OFFSET" [e]] else pure []
  let fetched ← limitClause g
  let lock ← if ← words ["FOR", "UPDATE"] then pure [Expr.word "var" "FOR UPDATE"]
    else if ← words ["FOR", "SHARE"] then pure [Expr.word "var" "FOR SHARE"] else pure []
  return condition ++ groups ++ having ++ order ++ limit ++ offset ++ fetched ++ lock

/-- The word of a query with the words that follow it. -/
def selectWord (g : Rules) : Parse (Option String) := do
  if !(← word "SELECT") then return none
  let all ← word "ALL"
  let distinct ← if all then pure false else word "DISTINCT"
  let top ← if (← read) = .sqlServer && (← peekWord "TOP") then
      skip
      match ← numberText with
      | some n => pure (" TOP " ++ n)
      | none =>
        let _ ← wrapped g.condition
        pure " TOP"
    else pure ""
  return some ("SELECT" ++ (if distinct then " DISTINCT" else "") ++ top)

/-- A query without set operations and without names for its parts. -/
def selectOf (g : Rules) : Parse (Option Expr) := do
  match ← selectWord g with
  | some keyword =>
    let columns ← commaList g.expression
    let into ← if ← word "INTO" then pure [Expr.clause "INTO" [TableName.toExpr (← tableName)]] else pure []
    let source ← fromClause g
    return some (.query "select" ([.clause keyword columns] ++ into ++ source ++ (← modifiers g)))
  | none =>
    -- a name in quotes begins no rows here
    let quoted := match ← next? with
      | some (.name _) => true
      | _ => false
    match ← if quoted then pure none else rowsOf g with
    | some rows => return some (rowsExpr rows)
    | none =>
      if ← peekWord "FROM" then
        let source ← fromClause g
        return some (.query "select" ([.clause "SELECT" [.star []]] ++ source ++ (← modifiers g)))
      else return none

/-- The named queries after `WITH`. -/
def namedQueries (g : Rules) : Parse (Option Expr) := do
  if !(← word "WITH") then return none
  let recursive ← word "RECURSIVE"
  let items ← commaList (do
    match ← identifier with
    | none => return none
    | some name =>
      let columns ← restoring do
        if ← sign "(" then
          let names ← commaList identifier
          if ← sign ")" then return some names else return none
        else return none
      let head := match columns with
        | some names => Expr.call "tablealias" name (names.map fun n => .column [n])
        | none => .column [name]
      if !(← word "AS") then reject
      let _ ← word "NOT"
      let _ ← word "MATERIALIZED"
      let q ← wrapped (need g.query)
      return some (.phrase "cte" [head, .word "var" "AS", .subquery q]))
  return some (.clause (if recursive then "WITH RECURSIVE" else "WITH") items)

/-- A query in parentheses. -/
def wrappedQuery (g : Rules) : Parse (Option Expr) := restoring do
  if ← sign "(" then
    match ← g.query with
    | some q => needSign ")"; return some (.subquery q)
    | none => return none
  else return none

/-- The set operations. -/
def setOperators (d : Dialect) : List (String × String) :=
  [("UNION", "union"), ("EXCEPT", "except"), ("INTERSECT", "intersect")]
  ++ if d = .oracle then [("MINUS", "except")] else []

/-- Set operations after a query. -/
def setOperations (g : Rules) (q : Expr) : Parse Expr := do
  let d ← read
  iterate (fun q => do
    match ← oneOf ((setOperators d).map (·.1)) with
    | none => return none
    | some name =>
      let all ← word "ALL"
      let _ ← word "DISTINCT"
      let right ← need (orElse (selectOf g) (wrappedQuery g))
      let key := ((setOperators d).lookup name).getD "union"
      let keyword := if all then name ++ " ALL" else name
      return some (.query key ([q, .word "var" keyword, right] ++ (← modifiers g)))) q

/-- A query with its set operations and the queries that it names. -/
def queryOf (g : Rules) : Parse (Option Expr) := do
  match ← namedQueries g with
  | some named =>
    let q ← need (orElse (selectOf g) (wrappedQuery g))
    match ← setOperations g q with
    | .query key clauses => return some (.query key (named :: clauses))
    | q => return some (.query "select" [named, q])
  | none =>
    match ← selectOf g with
    | some q => return some (← setOperations g q)
    | none => return none

end DumpSummary.Sql.Grammar
