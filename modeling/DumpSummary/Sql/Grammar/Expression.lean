import DumpSummary.Sql.Grammar.Function

/-!
# The grammar of expressions

From the tightest to the loosest: literals, names and calls; what follows them without a space, such as a field or
a subscript; signs; products; sums; the other operators between operands; tests; comparisons; negation; `AND`;
`OR`; a name given to the whole.

## Contents

* `literal`, `parenthesized`, `call`, `caseOf`: the tightest expressions;
* `columnOf`, `factorOf`, `operandOf`: operands;
* `testOf`, `comparisonOf`, `conditionOf`: conditions;
* `expressionOf`: an expression with its name.
-/

namespace DumpSummary.Sql.Grammar

open Parse

/-! ## Literals -/

/-- A string, with the strings that follow it directly. -/
def stringLiteral : Parse (Option Expr) := do
  let one : Parse (Option Expr) := take? fun
    | .string .plain text => some (.string .plain text)
    | _ => none
  match ← one with
  | none => return none
  | some first =>
    match ← many one with
    | [] => return some first
    | rest => return some (.call "concat" ⟨"CONCAT", false⟩ (first :: rest))

/-- The names of character sets that may stand before a string in MySQL. -/
def charsetWords : List String :=
  ["_ARMSCII8", "_ASCII", "_BIG5", "_BINARY", "_CP1250", "_CP1251", "_CP1256", "_CP1257", "_CP850", "_CP852", "_CP866",
    "_CP932", "_DEC8", "_EUCJPMS", "_EUCKR", "_GB18030", "_GB2312", "_GBK", "_GEOSTD8", "_GREEK", "_HEBREW", "_HP8",
    "_KEYBCS2", "_KOI8R", "_KOI8U", "_LATIN1", "_LATIN2", "_LATIN5", "_LATIN7", "_MACCE", "_MACROMAN", "_SJIS",
    "_SWE7", "_TIS620", "_UCS2", "_UJIS", "_UTF8", "_UTF16", "_UTF16LE", "_UTF32", "_UTF8MB3", "_UTF8MB4"]

/-- A literal, a star or another value that is no name. -/
def literal : Parse (Option Expr) := do
  let d ← read
  match ← next? with
  | some (.string .plain _) => stringLiteral
  | some (.string kind text) => skip; return some (.string kind text)
  | some (.number text) => skip; return some (.number text)
  | some (.sign "*") => skip; return some (.star [])
  | some (.sign ".") =>
    match ← second? with
    | some (.number text) => skip; skip; return some (.number ("0." ++ text))
    | _ => return none
  | some (.sign "?") => skip; return some (.word "placeholder" "?")
  | some (.sign "@") => parameter "@"
  | some (.sign "$") => parameter "$"
  | some (.sign ":") => parameter ":"
  | some (.word text key) =>
    if key = "NULL" then skip; return some (.word "null" "NULL")
    else if key = "TRUE" then skip; return some (.boolean true)
    else if key = "FALSE" then skip; return some (.boolean false)
    else if d = .mysql && charsetWords.contains key then
      match ← second? with
      | some (.string _ _) | some (.number _) =>
        skip
        match ← next? with
        | some (.string kind value) => skip; return some (.introduced text (.string kind value))
        | some (.number value) => skip; return some (.introduced text (.number value))
        | _ => return none
      | _ => return none
    else return none
  | _ => return none
where
  /-- A parameter behind its sign. -/
  parameter (mark : String) : Parse (Option Expr) := restoring do
    skip
    let mark := if mark = "@" && (← sign "@") then "@@" else mark
    match ← take? fun
      | .word text _ => some text
      | .number text => some text
      | .name text => some text
      | _ => none with
    | some text => return some (.word "parameter" (mark ++ text))
    | none => return none

/-! ## Parentheses and calls -/

/-- Set operations and clauses may follow a query in parentheses. -/
def isQuery : Expr → Bool
  | .query _ _ => true
  | .subquery _ => true
  | _ => false

/-- An expression, a list or a query in parentheses. -/
def parenthesized (g : Rules) : Parse (Option Expr) := do
  if !(← sign "(") then return none
  match ← g.query with
  | some q => needSign ")"; return some (.subquery q)
  | none =>
    let (items, comma) ← commaItems g.expression
    needSign ")"
    match items, comma with
    | [e], false => return some (.paren e)
    | items, _ => return some (.tuple items)

/-- An argument of a function: a query or an expression, with the words that some functions put between their
arguments. -/
def argument (g : Rules) : Parse (Option Expr) := do
  match ← g.query with
  | some q => return some q
  | none =>
    let distinct ← word "DISTINCT"
    match ← g.expression with
    | none => if distinct then reject else return none
    | some e =>
      let e := if distinct then Expr.phrase "distinct" [.word "var" "DISTINCT", e] else e
      let e ← iterate (fun e => do
        match ← oneOf ["FROM", "FOR"] with
        | some w => return some (.phrase "var" [e, .word "var" w, ← need g.condition])
        | none => return none) e
      match ← oneOf ["ORDER BY"] with
      | some w => return some (.phrase "order" [e, .clause w (← commaList g.condition)])
      | none => return some e

/-- A conversion, after its word and the opening parenthesis. -/
def conversion (g : Rules) (function : String) : Parse Expr := do
  let e ← need g.condition
  if !(← word "AS") then reject
  let t ← need g.type
  let _ ← words ["CHARACTER SET"]
  needSign ")"
  return .cast function e t

/-- A window after a call. -/
def overWindow (g : Rules) (e : Expr) : Parse Expr := do
  if !(← word "OVER") then return e
  match ← identifier with
  | some name => return .phrase "window" [e, .word "var" "OVER", .column [name]]
  | none =>
    needSign "("
    let partition ← if ← word "PARTITION BY" then
        pure [Expr.clause "PARTITION BY" (← commaList g.condition)] else pure []
    let order ← if ← word "ORDER BY" then pure [Expr.clause "ORDER BY" (← commaList g.condition)] else pure []
    needSign ")"
    return .phrase "window" [e, .word "var" "OVER", .paren (.phrase "window" (partition ++ order))]

/-- The keywords that are names but not of functions. -/
def notFunctions : List String :=
  ["AS", "BEGIN", "CASE", "CONSTRAINT", "DEFAULT", "DELETE", "DESC", "END", "FROM", "IN", "INTO", "IS", "NOT", "ON", "OR",
    "AND", "PARTITION", "REFERENCES", "RETURNING", "SELECT", "SET", "THEN", "UNION", "UNIQUE", "UPDATE", "USING",
    "VALUES", "WHEN", "WHERE", "WITH"]

/-- A call of a function, after its name in capitals. -/
def callOf (g : Rules) (text key : String) (quoted : Bool) : Parse Expr := do
  let d ← read
  needSign "("
  if !quoted && (key = "CAST" || key = "TRY_CAST") then conversion g key
  else
    let args ← commaList (argument g)
    needSign ")"
    overWindow g (if quoted then .call "anonymous" ⟨text, true⟩ args else functionCall d key args)

/-- A call of a function, or a function that is called without parentheses. -/
def call (g : Rules) : Parse (Option Expr) := do
  let d ← read
  let opens := (← second?) == some (.sign "(")
  match ← next? with
  | some (.word text key) =>
    if opens then
      if notFunctions.contains key then return none else skip; return some (← callOf g text key false)
    else if key = "CURRENT_TIMESTAMP" then skip; return some (currentTime d)
    else match bareFunctions.lookup key with
      | some kind => skip; return some (.word kind key)
      | none => return none
  | some (.phrase key) =>
    if opens && (typeWord? d key).isSome then skip; return some (← callOf g key key false) else return none
  | some (.name text) => if opens then skip; return some (← callOf g text text true) else return none
  | _ => return none

/-- A choice by cases. -/
def caseOf (g : Rules) : Parse (Option Expr) := do
  if !(← word "CASE") then return none
  let w := Expr.word "var"
  let operand ← if ← peekWord "WHEN" then pure none else g.condition
  let branches ← many (do
    if !(← word "WHEN") then return none
    let condition ← need g.condition
    if !(← word "THEN") then reject
    let value ← need g.condition
    return some [w "WHEN", condition, w "THEN", value])
  let otherwise ← if ← word "ELSE" then pure [w "ELSE", ← need g.condition] else pure []
  if !(← word "END") then reject
  return some (.phrase "case" ([w "CASE"] ++ operand.toList ++ branches.flatten ++ otherwise ++ [w "END"]))

/-- A length of time. -/
def intervalOf : Parse (Option Expr) := restoring do
  if !(← word "INTERVAL") then return none
  let value ← take? fun
    | .string .plain text => some text
    | .number text => some text
    | _ => none
  match value with
  | none => return none
  | some text =>
    let d ← read
    let unit ← take? fun
      | .word _ key => if reserved.contains key then none else some key
      | _ => none
    match unit with
    | none => return some (.phrase "interval" [.word "var" "INTERVAL", .string .plain text])
    | some unit =>
      match d with
      | .postgres => return some (.phrase "interval" [.word "var" "INTERVAL", .string .plain (text ++ " " ++ unit)])
      | _ => return some (.phrase "interval" [.word "var" "INTERVAL", .string .plain text, .word "var" unit])

/-! ## Operands -/

/-- What may follow a column or a value without a space: a conversion, a field, a subscript. -/
def columnOps (g : Rules) (e : Expr) : Parse Expr :=
  iterate (fun e => do
    if ← sign "::" then return some (.cast "CAST" e (← need g.type))
    else if ← peekSign "." then
      match e with
      | .column path =>
        skip
        if ← sign "*" then return some (.star path)
        match ← call g with
        | some f => return some (.phrase "dot" [.column path, f])
        | none =>
          match ← anyIdentifier with
          | some i => return some (.column (path ++ [i]))
          | none => reject
      | _ => return none
    else if ← sign "[" then
      let items ← commaList g.condition
      needSign "]"
      return some (.index e items)
    else
      match ← oneSign ["->", "->>", "#>", "#>>"] with
      | some s =>
        let path ← need (orElse literal (return (← identifier).map fun i => .column [i]))
        return some (.binary ⟨s, "jsonextract"⟩ e path)
      | none => return none) e

/-- An array written out. -/
def arrayLiteral (g : Rules) : Parse (Option Expr) := do
  if (← peekWord "ARRAY") && (← second?) == some (.sign "[") then
    skip
    skip
    let items ← commaList g.expression
    needSign "]"
    return some (.array items)
  else if ← sign "[" then
    let items ← commaList g.expression
    needSign "]"
    return some (.array items)
  else return none

/-- A field: a literal, a call or a name.  Where `any` holds, every token but a mark may be a name. -/
def fieldOf (g : Rules) (any : Bool) : Parse (Option Expr) :=
  firstOf [literal, parenthesized g, caseOf g, call g,
    return (← if any then anyIdentifier else identifier).map fun i => .column [i]]

/-- A value of a type: the type before a literal. -/
def typedLiteral (g : Rules) : Parse (Option Expr) := restoring do
  let isType ← match ← next? with
    | some (.word _ key) => pure (typeWord? (← read) key).isSome
    | some (.phrase key) => pure (typeWord? (← read) key).isSome
    | _ => pure false
  if !isType then return none
  match ← dataTypeOf g false with
  | none => return none
  | some t =>
    match ← next? with
    | some (.string .plain text) => skip; return some (.cast "CAST" (.string .plain text) t)
    | _ => return none

/-- A column, a literal or a call, with what follows it. -/
def columnOf (g : Rules) : Parse (Option Expr) := do
  match ← firstOf [intervalOf, attempt (typedLiteral g), arrayLiteral g, fieldOf g false] with
  | some e => return some (← columnOps g e)
  | none => return none

/-- The signs before an operand. -/
def signOperators : List (String × Operator) :=
  [("-", ⟨"-", "neg"⟩), ("~", ⟨"~", "bitwisenot"⟩), ("|/", ⟨"|/ ", "sqrt"⟩), ("||/", ⟨"||/ ", "cbrt"⟩)]

/-- A factor: an operand with the signs before it and the zone after it. -/
def factorOf (g : Rules) : Parse (Option Expr) := do
  let signed ← take? fun
    | .sign s => (signOperators.lookup s).map some <|> if s = "+" then some none else none
    | _ => none
  match signed with
  | some (some op) => return some (.unary op (← need g.factor))
  | some none => return some (← need g.factor)
  | none =>
    if ← word "NOT" then return some (.negation (← need g.comparison))
    match ← columnOf g with
    | none => return none
    | some e =>
      return some (← iterate (fun e => do
        if ← words ["AT", "TIME", "ZONE"] then
          return some (.phrase "attimezone" [e, .word "var" "AT TIME ZONE", ← need g.factor])
        else return none) e)

/-- Operands with operators between them, grouped to the left. -/
def chain (operator : Parse (Option Operator)) (operand : Parse (Option Expr)) : Parse (Option Expr) := do
  match ← operand with
  | none => return none
  | some first =>
    return some (← iterate (fun left => do
      match ← operator with
      | some op => return some (.binary op left (← need operand))
      | none => return none) first)

/-- The operator of a sign or a word. -/
def operator (table : List (String × Operator)) : Parse (Option Operator) :=
  take? fun t => t.key?.bind fun key => table.lookup key

/-- Multiplication and division. -/
def productOperators : List (String × Operator) :=
  [("*", ⟨"*", "mul"⟩), ("/", ⟨"/", "div"⟩), ("DIV", ⟨"DIV", "intdiv"⟩)]

/-- Addition and the like. -/
def sumOperators : List (String × Operator) :=
  [("+", ⟨"+", "add"⟩), ("-", ⟨"-", "sub"⟩), ("%", ⟨"%", "mod"⟩),
    ("COLLATE", ⟨"COLLATE", "collate"⟩)]

/-- The operators on bits and strings.  Two bars join strings, except in MySQL. -/
def bitOperators (d : Dialect) : List (String × Operator) :=
  (if d = .mysql then [] else [("||", ⟨"||", "dpipe"⟩)])
  ++ [("&", ⟨"&", "bitwiseand"⟩), ("|", ⟨"|", "bitwiseor"⟩), ("^", ⟨"^", "bitwisexor"⟩), ("<<", ⟨"<<", "bitwiseleftshift"⟩),
    (">>", ⟨">>", "bitwiserightshift"⟩), ("??", ⟨"??", "coalesce"⟩), ("@>", ⟨"@>", "arraycontainsall"⟩),
    ("<@", ⟨"<@", "arraycontainsall"⟩), ("<->", ⟨"<->", "distance"⟩)]

/-- An operand of a comparison. -/
def operandOf (g : Rules) : Parse (Option Expr) := do
  let d ← read
  chain (operator (bitOperators d)) (chain (operator sumOperators) (chain (operator productOperators) (factorOf g)))

/-! ## Conditions -/

/-- The pattern tests. -/
def patternOperators (d : Dialect) : List (String × Operator) :=
  [("LIKE", ⟨"LIKE", "like"⟩), ("ILIKE", ⟨"ILIKE", "ilike"⟩), ("RLIKE", ⟨"RLIKE", "regexplike"⟩),
    ("REGEXP", ⟨"RLIKE", "regexplike"⟩), ("GLOB", ⟨"GLOB", "glob"⟩), ("SIMILAR TO", ⟨"SIMILAR TO", "similarto"⟩),
    ("OVERLAPS", ⟨"OVERLAPS", "overlaps"⟩)]
  ++ if d = .postgres then
      [("~", ⟨"~", "regexplike"⟩), ("~*", ⟨"~*", "regexpilike"⟩), ("~~", ⟨"LIKE", "like"⟩), ("~~*", ⟨"ILIKE", "ilike"⟩)]
    else []

/-- A null test, after `IS`. -/
def isTest (g : Rules) (e : Expr) : Parse (Option Expr) := do
  let negated ← word "NOT"
  if ← words ["DISTINCT", "FROM"] then
    let other ← need g.operand
    let text := if negated then "IS NOT DISTINCT FROM" else "IS DISTINCT FROM"
    return some (.binary ⟨text, if negated then "nullsafeeq" else "nullsafeneq"⟩ e other)
  else
    let test := Expr.binary ⟨"IS", "is"⟩ e (← need g.operand)
    return some (if negated then .negation test else test)

/-- The test that follows an operand, without a negation before it. -/
def testAfter (g : Rules) (e : Expr) : Parse (Option Expr) := do
  let d ← read
  if ← word "BETWEEN" then
    let low ← need g.operand
    if !(← word "AND") then reject
    return some (.between e low (← need g.operand))
  else if ← word "IN" then
    if ← sign "(" then
      match ← g.query with
      | some q => needSign ")"; return some (.membership e [.subquery q])
      | none =>
        let items ← commaList g.expression
        needSign ")"
        return some (.membership e items)
    else return some (.binary ⟨"IN", "in"⟩ e (← need g.operand))
  else if ← word "IS" then isTest g e
  else if ← word "ISNULL" then return some (.binary ⟨"IS", "is"⟩ e (.word "null" "NULL"))
  else match ← operator (patternOperators d) with
    | some op =>
      let test := Expr.binary op e (← need g.operand)
      if ← word "ESCAPE" then return some (.binary ⟨"ESCAPE", "escape"⟩ test (← need g.operand))
      else return some test
    | none => return none

/-- An operand with the tests that follow it. -/
def testOf (g : Rules) : Parse (Option Expr) := do
  match ← operandOf g with
  | none => return none
  | some e =>
    let negated ← word "NOT"
    let tested ← match ← testAfter g e with
      | some t => pure t
      | none =>
        if negated && (← word "NULL") then pure (.binary ⟨"IS", "is"⟩ e (.word "null" "NULL")) else pure e
    let tested ← if ← word "NOTNULL" then
        pure (.negation (.binary ⟨"IS", "is"⟩ tested (.word "null" "NULL"))) else pure tested
    let tested := if negated then .negation tested else tested
    if ← word "IS" then isTest g tested else return some tested

/-- The comparisons of order. -/
def orderOperators : List (String × Operator) :=
  [("<", ⟨"<", "lt"⟩), ("<=", ⟨"<=", "lte"⟩), (">", ⟨">", "gt"⟩), (">=", ⟨">=", "gte"⟩)]

/-- The comparisons of equality. -/
def equalityOperators : List (String × Operator) :=
  [("=", ⟨"=", "eq"⟩), ("==", ⟨"=", "eq"⟩), ("<>", ⟨"<>", "neq"⟩), ("!=", ⟨"<>", "neq"⟩), ("<=>", ⟨"<=>", "nullsafeeq"⟩)]

/-- A comparison. -/
def comparisonOf (g : Rules) : Parse (Option Expr) :=
  chain (operator equalityOperators) (chain (operator orderOperators) (testOf g))

/-- The words and signs of conjunction. -/
def andOperators (d : Dialect) : List (String × Operator) :=
  ("AND", ⟨"AND", "and"⟩) :: if d = .mysql then [("&&", ⟨"AND", "and"⟩)] else []

/-- The words and signs of disjunction. -/
def orOperators (d : Dialect) : List (String × Operator) :=
  [("OR", ⟨"OR", "or"⟩), ("XOR", ⟨"XOR", "xor"⟩)] ++ if d = .mysql then [("||", ⟨"OR", "or"⟩)] else []

/-- A condition: comparisons joined by `AND` and `OR`, or an assignment. -/
def conditionOf (g : Rules) : Parse (Option Expr) := do
  let d ← read
  chain (operator [(":=", ⟨":=", "propertyeq"⟩)])
    (chain (operator (orOperators d)) (chain (operator (andOperators d)) (comparisonOf g)))

/-- A name given to an expression: behind `AS` any token, otherwise a name or a string. -/
def aliasOf (e : Expr) : Parse Expr := do
  if ← word "AS" then
    match ← orElse anyIdentifier stringName with
    | some i => return .alias e i
    | none => return e
  else
    match ← orElse identifier stringName with
    | some i => return .alias e i
    | none => return e

/-- An expression, which may be given a name. -/
def expressionOf (g : Rules) : Parse (Option Expr) := do
  match ← conditionOf g with
  | some e => return some (← aliasOf e)
  | none => return none

end DumpSummary.Sql.Grammar
