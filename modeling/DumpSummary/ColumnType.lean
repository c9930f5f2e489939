import DumpSummary.Reference
import DumpSummary.Value.Display
import DumpSummary.Text.Upper

/-!
# Column types

A column's definition carries a type tag, a length and a scale, either on the definition itself or one level
down under `dataType`.

## Contents

* `DeclaredType`: tag, length and scale;
* `ColumnType.ofDefinition`: the type that a definition declares;
* `ColumnType.text`: `TAG`, `TAG(length)` or `TAG(length,scale)`.
-/

namespace DumpSummary

/-- A declared type. -/
structure DeclaredType where
  /-- The type tag in upper case; none when the definition has no tag. -/
  tag : Option String
  /-- The length or precision; null when there is none. -/
  length : Value
  /-- The scale; null when there is none. -/
  scale : Value

/-- What a column definition says about the type. -/
inductive ColumnType
  /-- The definition is a record, with whatever of a type it holds. -/
  | declared (type : DeclaredType)
  /-- The definition is no record. -/
  | unrecognized

namespace ColumnType

/-- The type tag of a definition: its field `dataType`, or the field `dataType` of that. -/
def tagOf (definition : Value) : Option String :=
  match definition.field "dataType" with
  | .text s => some (Text.upper s)
  | inner =>
    match inner.field "dataType" with
    | .text s => some (Text.upper s)
    | _ => none

/-- A field of the definition or, where that is null, the same field under `dataType`. -/
def outerOrNested (definition : Value) (key : String) : Value :=
  match definition.field key with
  | .null => (definition.field "dataType").field key
  | v => v

/-- The type that a column definition declares. -/
def ofDefinition (definition : Value) : ColumnType :=
  if definition.isRecord then
    .declared ⟨tagOf definition, outerOrNested definition "length", outerOrNested definition "scale"⟩
  else .unrecognized

end ColumnType

/-- The text of a declared type.  A missing or empty tag is shown as `unknown`; a scale without a length is left
out. -/
def DeclaredType.text (t : DeclaredType) : String :=
  let tag := match t.tag with
    | some s => if s = "" then unknown else s
    | none => unknown
  match t.length, t.scale with
  | .null, _ => tag
  | length, .null => tag ++ "(" ++ length.parameter ++ ")"
  | length, scale => tag ++ "(" ++ length.parameter ++ "," ++ scale.parameter ++ ")"

/-- The text of a column's type. -/
def ColumnType.text : ColumnType → String
  | .declared t => t.text
  | .unrecognized => unknown

end DumpSummary
