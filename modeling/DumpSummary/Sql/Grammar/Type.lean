import DumpSummary.Sql.Grammar.Rules
import DumpSummary.Sql.TypeWord
import DumpSummary.Sql.Scan

/-!
# The grammar of types

A type is a word of the dialect with parameters, a composition of other types, or, except in MySQL, a name that
the dump defines.

## Contents

* `typeSize`: a parameter of a sized type;
* `namedType`: the word or name and its parameters;
* `arrayOf`: the brackets that make arrays of a type;
* `dataType`: a type.
-/

namespace DumpSummary.Sql.Grammar

open Parse

/-- The unit after a size, or the second word of a parameter; any word will do. -/
def sizeUnit : Parse (Option Expr) :=
  take? fun
    | .word text _ => some (.word "var" text)
    | .phrase key => some (.word "var" key)
    | .name text => some (.word "var" text)
    | _ => none

/-- A parameter of a sized type: a number, a word, a star or a string, with a unit. -/
def typeSize : Parse (Option Expr) := do
  let value ← take? fun
    | .number text => some (Expr.number text)
    | .word text key => if reserved.contains key then none else some (.word "var" text)
    | .name text => some (.column [⟨text, true⟩])
    | .string kind text => some (.string kind text)
    | .sign "*" => some (.star [])
    | _ => none
  match value with
  | none => return none
  | some v =>
    match ← sizeUnit with
    | some u => return some (.phrase "datatypeparam" [v, u])
    | none => return some v

/-- The parameters of a type after the opening parenthesis; nothing is found unless the closing one follows. -/
def typeParams (item : Parse (Option α)) : Parse (Option (List α)) := restoring do
  if !(← sign "(") then return none
  let items ← commaList item
  if ← sign ")" then return some items else return none

/-- Whether the next token opens a parenthesis. -/
def peekParen : Parse Bool := peekSign "("

/-- Parameters where there is a parenthesis: the outer `none` means that they cannot be read. -/
def optionalParams (item : Parse (Option α)) : Parse (Option (List α)) := do
  if ← peekParen then typeParams item else return some []

/-- The zone that follows a type for times. -/
def timeZone (kind : TypeKind) : Parse TypeKind := do
  if ← words ["WITH", "TIME", "ZONE"] then
    return if kind = .plain "TIME" || kind = .timeWithZone then .timeWithZone else .timestampWithZone
  else if ← words ["WITH", "LOCAL", "TIME", "ZONE"] then return .timestampWithLocalZone
  else
    let _ ← words ["WITHOUT", "TIME", "ZONE"]
    return kind

/-- Whether a zone may follow the type. -/
def hasZone (kind : TypeKind) : Bool :=
  [TypeKind.plain "TIME", .timeWithZone, .timestamp, .timestampWithZone, .timestampWithLocalZone].contains kind

/-- The type for the numbers of a type without the negative ones, by its common name. -/
def unsignedOf? : TypeKind → Option TypeKind
  | .tinyInt => some (.unsigned "TINYINT")
  | .smallInt => some (.unsigned "SMALLINT")
  | .plain "MEDIUMINT" => some (.unsigned "MEDIUMINT")
  | .int => some (.unsigned "INT")
  | .bigInt => some (.unsigned "BIGINT")
  | .decimal => some (.unsigned "DECIMAL")
  | .double => some (.unsigned "DOUBLE")
  | _ => none

/-- The word that makes a type unsigned. -/
def unsignedWord (kind : TypeKind) : Parse TypeKind := do
  if ← word "UNSIGNED" then need (return unsignedOf? kind) else return kind

/-- A type of a word with sizes. -/
def sizedType (kind : TypeKind) : Parse (Option DataType) := do
  match ← optionalParams typeSize with
  | none => return none
  | some params =>
    if hasZone kind then
      let kind ← timeZone kind
      return some (.builtin kind params)
    else
      let kind ← unsignedWord kind
      return some (.builtin kind params)

/-- The types in angle brackets after the name of a type that is made of others. -/
def innerTypes (item : Parse (Option DataType)) : Parse (Option (List DataType)) := do
  if ← sign "<" then
    let inner ← commaList item
    needSign ">"
    return some inner
  else return none

/-- A named field of a type made of fields. -/
def structField (g : Rules) : Parse (Option DataType) := restoring do
  match ← anyIdentifier with
  | none => return none
  | some name =>
    let _ ← sign ":"
    match ← g.type with
    | some t => return some (.field name t)
    | none => return none

/-- A unit of time, which is a bare word that names no type. -/
def unitWord : Parse (Option String) := do
  let d ← read
  take? fun
    | .word _ key => if reserved.contains key || (typeWord? d key).isSome then none else some key
    | _ => none

/-- The type of lengths of time, with a unit or a span of units. -/
def intervalType : Parse DataType := do
  match ← unitWord with
  | none => return .interval ""
  | some unit =>
    if ← word "TO" then
      match ← unitWord with
      | some last => return .interval (unit ++ " TO " ++ last)
      | none => return .interval (unit ++ " TO")
    else return .interval unit

/-- The type that a word stands for, after the word. -/
def typeOfWord (g : Rules) : TypeWord → Parse (Option DataType)
  | .sized kind => sizedType kind
  | .members kind => do
    match ← optionalParams g.comparison with
    | some params => return some (.builtin kind params)
    | none => return none
  | .array => do
    match ← innerTypes g.type with
    | some (t :: _) => return some (.array t [])
    | _ =>
      match ← optionalParams g.type with
      | some (t :: _) => return some (.array t [])
      | some [] => return some (.nested "ARRAY" [])
      | none => return none
  | .nested name => do
    match ← innerTypes g.type with
    | some inner => return some (.nested name inner)
    | none =>
      match ← optionalParams g.type with
      | some inner => return some (.nested name inner)
      | none => return none
  | .struct => do
    match ← innerTypes (structField g) with
    | some inner => return some (.nested "STRUCT" inner)
    | none =>
      match ← optionalParams (structField g) with
      | some inner => return some (.nested "STRUCT" inner)
      | none => return none
  | .interval => return some (← intervalType)
  | .object name => return some (.builtin (.plain name) [])

/-- The further parts of a dotted name. -/
def dottedRest (path : List Ident) : Parse (List Ident) := do
  let found ← iterate (fun path => restoring do
    if ← sign "." then return (← anyIdentifier).map (· :: path) else return none) path.reverse
  return found.reverse

/-- A type by a name that the dump defines. -/
def userDefinedType (first : Ident) : Parse (Option DataType) := do
  let path ← dottedRest [first]
  match ← optionalParams typeSize with
  | some params =>
    if ← word "UNSIGNED" then reject
    return some (.userDefined path params)
  | none => return none

/-- The word of a type that a quoted name spells. -/
def quotedTypeWord? (d : Dialect) (text : String) : Option TypeWord :=
  match scan? d text with
  | some [.word _ key] => typeWord? d key
  | some [.phrase key] => typeWord? d key
  | _ => none

/-- A type without brackets for arrays.  Where `names` holds, it may be a name that the dump defines. -/
def namedType (g : Rules) (names : Bool) : Parse (Option DataType) := restoring do
  let d ← read
  match ← next? with
  | some (.word text key) =>
    match typeWord? d key with
    | some w => skip; typeOfWord g w
    | none =>
      if names && d ≠ .mysql && (asName (.word text key)).isSome && !isKeywordForTypes key then
        skip; userDefinedType ⟨text, false⟩
      else return none
  | some (.phrase key) =>
    match typeWord? d key with
    | some w => skip; typeOfWord g w
    | none => return none
  | some (.name text) =>
    if names then
      match quotedTypeWord? d text with
      | some w => skip; typeOfWord g w
      | none => if d ≠ .mysql then skip; userDefinedType ⟨text, true⟩ else return none
    else return none
  | some (.stray _) => skip; return some (.builtin (.plain "UNKNOWN") [])
  | _ => return none
where
  /-- The keywords that are names elsewhere but never the name of a type. -/
  isKeywordForTypes (key : String) : Bool :=
    ["ALL", "ANALYZE", "ANY", "ASC", "AUTO_INCREMENT", "AUTOINCREMENT", "BEGIN", "CACHE", "CALL", "CASE",
      "COLLATE", "COLUMN", "COMMENT", "COMMIT", "CONSTRAINT", "COPY", "CURRENT_DATE", "CURRENT_TIME",
      "CURRENT_TIMESTAMP", "CURRENT_USER", "DATABASE", "DEFAULT", "DELETE", "DESC", "DESCRIBE", "END", "ESCAPE",
      "EXECUTE", "EXISTS", "EXPLAIN", "FALSE", "FILTER", "FIRST", "FORMAT", "FULL", "FUNCTION",
      "INDEX", "IS", "ISNULL", "KILL", "LEFT", "LIMIT", "LOAD", "LOCK", "MERGE", "NATURAL", "NEXT",
      "OFFSET", "OVER", "PARTITION", "PIVOT", "PRAGMA", "PROCEDURE", "RANGE", "RECURSIVE", "REFERENCES", "RENAME",
      "REPLACE", "RIGHT", "ROW", "ROWS", "SCHEMA", "SEMI", "SEQUENCE", "SET", "SHOW", "SOME", "TABLE", "TEMPORARY",
      "TRIGGER", "TRUE", "TRUNCATE", "UNIQUE", "UNNEST", "UPDATE", "USE", "VACUUM", "VIEW", "WINDOW"].contains key

/-- Brackets after a type make arrays of it. -/
def arrayOf (g : Rules) (t : DataType) : Parse DataType :=
  iterate (fun t => restoring do
    if ← sign "[" then
      let size ← commaList g.condition
      let _ ← sign "]"
      return some (.array t size)
    else return none) t

/-- A type. -/
def dataTypeOf (g : Rules) (names : Bool) : Parse (Option DataType) := do
  match ← namedType g names with
  | some t =>
    let t ← if ← word "ARRAY" then (fun t => DataType.array t []) <$> pure t else pure t
    return some (← arrayOf g t)
  | none => return none

/-- A type, which may be a name that the dump defines. -/
def dataType (g : Rules) : Parse (Option DataType) := dataTypeOf g true

end DumpSummary.Sql.Grammar
