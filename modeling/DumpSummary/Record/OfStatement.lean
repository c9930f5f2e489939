import DumpSummary.Record.TypeTag
import DumpSummary.Sql.Render
import DumpSummary.Text.Digit
import DumpSummary.Text.Numeral
import DumpSummary.Value.Basic

/-!
# Statement records

A statement as a record of plain values: its `type` and, for the statements that matter to a summary, what they
declare, insert or choose.

## Contents

* `typeTag`, `numericParams`: what a column's record says about its type;
* `Fault`: why a statement has no record;
* `ofStatement`: the record of a statement.
-/

namespace DumpSummary.Record

open Sql

/-- Why a statement has no record. -/
inductive Fault
  /-- A type parameter has digit signs that write no number. -/
  | notANumber (text : String)
  /-- A type parameter has more digits than are read as a number. -/
  | tooManyDigits (count : Nat)
  deriving DecidableEq, Repr

/-- The wording of a fault. -/
def Fault.message : Fault → String
  | .notANumber text => Text.invalidLiteral 10 text
  | .tooManyDigits count => Text.tooManyDigits count

/-- The name of a type of the dump itself or of a built-in one, for a type whose text leaves no tag. -/
def typeOwnName : DataType → String
  | .builtin kind _ => kind.spelling .common true
  | .array _ _ => "ARRAY"
  | .nested name _ => name
  | .field _ _ => "STRUCT"
  | .userDefined _ _ => "USER-DEFINED"
  | .interval _ => "INTERVAL"

/-- The tag of a declared type: the text of the type without parameters, or the type's own name where that leaves
nothing. -/
def typeTag (d : Dialect) (t : DataType) : String :=
  let tag := tagText (t.render d).toList
  if tag.isEmpty then typeOwnName t else String.ofList tag

/-- The number in a type parameter, which may have a unit behind it. -/
def parameterNumber? : Expr → Option String
  | .number text => some text
  | .phrase "datatypeparam" (.number text :: _) => some text
  | _ => none

/-- The parameters of a type. -/
def typeParameters : DataType → List Expr
  | .builtin _ params => params
  | .userDefined _ params => params
  | _ => []

/-- A number of a type parameter as a value: a whole number if it consists of digits, else its text. -/
def numberValue (text : String) : Except Fault Value :=
  let cs := text.toList
  let leading := (cs.takeWhile fun c => (Text.digitValue? c).isSome).length
  if cs.isEmpty || !cs.all Text.isDigit then .ok (.text text)
  else if leading > Text.maxDigits then .error (.tooManyDigits leading)
  else match Text.integer? cs with
    | some n => .ok (.int n)
    | none => .error (.notANumber text)

/-- The numbers among the parameters of a type, in order. -/
def numericParams (t : DataType) : Except Fault (List Value) :=
  ((typeParameters t).filterMap parameterNumber?).mapM numberValue

/-- The definition of a column: the tag, the length and the scale of its type. -/
def columnDefinition (d : Dialect) : Option DataType → Except Fault Value
  | none => .ok (.record [])
  | some t => do
    let params ← numericParams t
    let sizes := match params with
      | [] => []
      | [length] => [("length", length)]
      | length :: scale :: _ => [("length", length), ("scale", scale)]
    return .record (("dataType", .text (typeTag d t)) :: sizes)

/-- The name of a kind of constraint. -/
def constraintName : ConstraintKind → String
  | .primaryKey => "primary key"
  | .foreignKey => "foreign key"
  | .unique => "unique"
  | .check => "check"
  | .named => "constraint"
  | .other key => key

/-- The record of an entry of a definition. -/
def ofSchemaItem (d : Dialect) : SchemaItem → Except Fault Value
  | .column c => do
    return .record [("resource", .text "column"), ("column", .record [("column", .text c.name)]),
      ("definition", ← columnDefinition d c.type)]
  | .constraint kind body =>
    .ok (.record [("resource", .text "constraint"), ("constraint_type", .text (constraintName kind)),
      ("definition", .text (body.render d))])

/-- The record of a table's name. -/
def ofTableName (t : TableName) : Value :=
  .record [("db", if t.database = "" then .null else .text t.database), ("table", .text t.name)]

/-- The field for a target, if it is a table. -/
def tableField : Option TableName → List (String × Value)
  | some t => [("table", .list [ofTableName t])]
  | none => []

/-- The record of a row. -/
def ofRow (d : Dialect) (row : List Expr) : Value :=
  .texts (row.map (Expr.render d))

/-- The fields of the record of a statement. -/
def fieldsOf (d : Dialect) : Statement → Except Fault (List (String × Value))
  | .use target => .ok [("type", .text "use"), ("db", .ofText? target)]
  | .create kind target items => do
    let keyword := String.ofList (kind.toList.map Char.toLower)
    let head := [("type", .text "create"), ("keyword", Value.text keyword)]
    if keyword = "table" then
      return head ++ tableField target ++ [("create_definitions", .list (← items.mapM (ofSchemaItem d)))]
    else
      return head ++ match target with
        | some t => [("name", .text t.name)]
        | none => []
  | .insert target rows =>
    .ok ([("type", .text "insert")] ++ tableField target ++ match rows with
      | some rows => [("values", .list (rows.map (ofRow d)))]
      | none => [])
  | .raw keyword => .ok [("type", .text (String.ofList (keyword.toList.map Char.toLower)))]
  | .other key => .ok [("type", .text key)]

/-- The record of a statement. -/
def ofStatement (d : Dialect) (s : Statement) : Except Fault Value :=
  return .record (← fieldsOf d s)

end DumpSummary.Record
