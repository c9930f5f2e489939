import DumpSummary.Number.Binary64

/-!
# Values

The data that statement records are made of: the values of JSON, with whole numbers and floating-point numbers
kept apart and the fields of a record kept in their order.

## Contents

* `Value`: the type;
* `Value.field`: a field of a record, null where there is none;
* `Value.isTruthy`: what counts as present;
* `Value.kindName`: the name of a value's kind in log messages.
-/

namespace DumpSummary

/-- A value: nothing, a truth value, a number, a text, a list, or a record of named fields in order. -/
inductive Value
  /-- The absent value. -/
  | null
  /-- A truth value. -/
  | bool (b : Bool)
  /-- A whole number of any size. -/
  | int (n : Int)
  /-- A floating-point number. -/
  | float (x : Binary64)
  /-- A text. -/
  | text (s : String)
  /-- A list of values. -/
  | list (items : List Value)
  /-- A record: its fields with their names, in order. -/
  | record (fields : List (String × Value))
  deriving Repr, Inhabited

namespace Value

/-- The field of that name, the first one if there are several; null when the value is no record or has no such
field. -/
def field (v : Value) (key : String) : Value :=
  match v with
  | .record fields => (fields.lookup key).getD .null
  | _ => .null

/-- Whether the value is a record. -/
def isRecord : Value → Bool
  | .record _ => true
  | _ => false

/-- Whether the value is null. -/
def isNull : Value → Bool
  | .null => true
  | _ => false

/-- Whether a value counts as present: null, false, zero and everything empty do not. -/
def isTruthy : Value → Bool
  | .null => false
  | .bool b => b
  | .int n => n ≠ 0
  | .float x => !x.isZero
  | .text s => s ≠ ""
  | .list items => !items.isEmpty
  | .record fields => !fields.isEmpty

/-- The kind of a value, as log messages name it. -/
def kindName : Value → String
  | .null => "NoneType"
  | .bool _ => "bool"
  | .int _ => "int"
  | .float _ => "float"
  | .text _ => "str"
  | .list _ => "list"
  | .record _ => "dict"

/-- The text, or null for an absent one. -/
def ofText? : Option String → Value
  | some s => .text s
  | none => .null

/-- A list of texts. -/
def texts (ss : List String) : Value :=
  .list (ss.map .text)

@[simp] theorem field_null (key : String) : Value.null.field key = .null := rfl

@[simp] theorem field_record (fields : List (String × Value)) (key : String) :
    (Value.record fields).field key = (fields.lookup key).getD .null := rfl

/-- Only records have fields. -/
theorem field_of_isRecord_eq_false {v : Value} (h : v.isRecord = false) (key : String) :
    v.field key = .null := by
  cases v <;> first | rfl | simp [isRecord] at h

end Value
end DumpSummary
