import DumpSummary.Value.Basic
import DumpSummary.Text.Utf8

/-!
# The values of documents

What a document stands for: the values of records, and besides them bytes, dates and sets, and mappings whose keys are
any values.

## Contents

* `Yaml.Datum`: the type;
* `Datum.field?`: the value of a key that is a text;
* `Datum.isTruthy`: what counts as present;
* `Datum.ofValue`: a record value as the value of a document.
-/

namespace DumpSummary.Yaml

/-- A value of a document. -/
inductive Datum
  /-- The absent value. -/
  | null
  /-- A truth value. -/
  | bool (b : Bool)
  /-- A whole number. -/
  | int (n : Int)
  /-- A floating-point number. -/
  | float (x : Binary64)
  /-- A text. -/
  | text (s : String)
  /-- Bytes. -/
  | bytes (bs : Bytes)
  /-- A date, possibly with a time. -/
  | timestamp
  /-- A list of values. -/
  | list (items : List Datum)
  /-- A set, by what it was written with. -/
  | set (items : List Datum)
  /-- A mapping from values to values, in order; of equal keys the last one counts. -/
  | mapping (entries : List (Datum × Datum))
  deriving Repr, Inhabited

namespace Datum

/-- Whether the value is that text. -/
def isText (key : String) : Datum → Bool
  | .text s => s == key
  | _ => false

/-- The last value that a mapping has for a key. -/
def field? (entries : List (Datum × Datum)) (key : String) : Option Datum :=
  (entries.reverse.find? fun e => e.1.isText key).map (·.2)

/-- Whether the value counts as present: null, false, zero and everything empty do not. -/
def isTruthy : Datum → Bool
  | .null => false
  | .bool b => b
  | .int n => n ≠ 0
  | .float x => !x.isZero
  | .text s => s ≠ ""
  | .bytes bs => !bs.isEmpty
  | .timestamp => true
  | .list items => !items.isEmpty
  | .set items => !items.isEmpty
  | .mapping entries => !entries.isEmpty

/-- Whether the value may be a key or a member of a set: collections may not. -/
def isKey : Datum → Bool
  | .list _ => false
  | .set _ => false
  | .mapping _ => false
  | _ => true

mutual

/-- A record value as the value of a document. -/
def ofValue : Value → Datum
  | .null => .null
  | .bool b => .bool b
  | .int n => .int n
  | .float x => .float x
  | .text s => .text s
  | .list items => .list (ofItems items)
  | .record fields => .mapping (ofFields fields)

/-- The items of a list. -/
def ofItems : List Value → List Datum
  | [] => []
  | v :: vs => ofValue v :: ofItems vs

/-- The fields of a record. -/
def ofFields : List (String × Value) → List (Datum × Datum)
  | [] => []
  | (k, v) :: fs => (.text k, ofValue v) :: ofFields fs

end

end Datum
end DumpSummary.Yaml
