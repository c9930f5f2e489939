import DumpSummary.Proofs.Dump.Reading
import DumpSummary.Proofs.Outcome
import DumpSummary.Proofs.Record.Effect

/-!
# The numbers that lenient reading stops at

Lenient reading puts a record in the place of a fragment that cannot be read.  For a statement that was read but has no
record it has nothing to put: the first number among the type parameters of a dump that has no value leaves the whole
dump without records.

Each stage between a number and a dump is taken through: a type, a column, an entry, a statement, a fragment.  Each
fails with the fault of the first of its numbers that has one, and for no other reason.

## Contents

* `numberFault?`, `numberFault?_eq_none_iff`, `readable_numeral_iff`: numbers with and without a value;
* `firstFault?`: the first fault of some numbers;
* `failure?_numericParams`, `failure?_columnDefinition`, `failure?_ofSchemaItem`, `failure?_ofStatement`: a statement
  and its parts;
* `Reading.numbers`, `failure?_fragmentRecords`: a fragment;
* `failure?_records`: fragments one after the other;
* `StopsAt`, `stopsAt_read`: **lenient reading stops exactly at the first number without a value.**
-/

namespace DumpSummary.Record

open Sql

/-! ## Numbers -/

/-- Why a number has no value, if it has none. -/
def numberFault? (text : String) : Option Fault := failure? (numberValue text)

/-- A number has a value exactly if it is readable. -/
theorem numberFault?_eq_none_iff {text : String} : numberFault? text = none ↔ Readable text := by
  constructor
  · intro hnone
    by_contra hread
    obtain ⟨e, he⟩ := numberValue_of_not_readable hread
    rw [numberFault?, he] at hnone
    cases hnone
  · intro hread
    obtain ⟨v, hv, -⟩ := numberValue_of_readable hread
    rw [numberFault?, hv]
    rfl

/-- Digits as a number is written in, at least one. -/
structure IsNumeral (text : String) : Prop where
  /-- There is a digit. -/
  nonempty : text.toList ≠ []
  /-- There are digits only. -/
  digits : ∀ c ∈ text.toList, c.isDigit = true

/-- A digit has a value. -/
theorem digitValue?_isSome_of_isDigit {c : Char} (h : c.isDigit = true) : (Text.digitValue? c).isSome = true := by
  rw [Text.digitValue?, if_pos h]
  rfl

/-- **A numeral** has a value exactly if it has at most 4300 digits. -/
theorem readable_numeral_iff {text : String} (h : IsNumeral text) : Readable text ↔ text.toList.length ≤ 4300 := by
  have hvalues : ∀ c ∈ text.toList, (Text.digitValue? c).isSome = true :=
    fun c hc => digitValue?_isSome_of_isDigit (h.digits c hc)
  have hdigits : IsDigits text := ⟨h.nonempty, fun c hc => isDigit_of_digitValue? (hvalues c hc)⟩
  constructor
  · exact fun hread => (hread hdigits).2
  · exact fun hlength _ => ⟨hvalues, hlength⟩

/-- The fault of the first of some numbers that has one. -/
def firstFault? (texts : List String) : Option Fault := texts.findSome? numberFault?

theorem firstFault?_eq_none_iff {texts : List String} : firstFault? texts = none ↔ ∀ x ∈ texts, Readable x := by
  unfold firstFault?
  simp only [List.findSome?_eq_none_iff, numberFault?_eq_none_iff]

theorem firstFault?_append (xs ys : List String) :
    firstFault? (xs ++ ys) = (firstFault? xs).or (firstFault? ys) := List.findSome?_append

/-- The first fault in the numbers of the first of some things that has one. -/
theorem firstFault?_flatMap {α : Type} (numbers : α → List String) (as : List α) :
    firstFault? (as.flatMap numbers) = as.findSome? fun a => firstFault? (numbers a) := by
  induction as with
  | nil => rfl
  | cons a as ih =>
    rw [List.flatMap_cons, firstFault?_append, ih, List.findSome?_cons]
    cases firstFault? (numbers a) <;> rfl

/-! ## A statement and its parts -/

variable (d : Dialect)

/-- **The parameters of a type** have values exactly if all numbers among them do. -/
theorem failure?_numericParams (t : DataType) : failure? (numericParams t) = firstFault? (typeNumbers (some t)) :=
  failure?_mapM numberValue _

theorem failure?_columnDefinition (type : Option DataType) :
    failure? (columnDefinition d type) = firstFault? (typeNumbers type) := by
  cases type with
  | none => rfl
  | some t =>
    rw [← failure?_numericParams]
    exact failure?_map _ (numericParams t)

theorem failure?_ofSchemaItem (item : SchemaItem) :
    failure? (ofSchemaItem d item) = firstFault? (itemNumbers item) := by
  cases item with
  | constraint kind body => rfl
  | column c =>
    show _ = firstFault? (typeNumbers c.type)
    rw [← failure?_columnDefinition d]
    exact failure?_map _ (columnDefinition d c.type)

/-- **A statement** has a record exactly if all numbers in the types of its columns have values. -/
theorem failure?_ofStatement (s : Statement) : failure? (ofStatement d s) = firstFault? (statementNumbers s) := by
  cases s with
  | create kind target items =>
    by_cases hkind : IsTableKind kind
    · have hitems : failure? (items.mapM (ofSchemaItem d)) = firstFault? (items.flatMap itemNumbers) := by
        rw [failure?_mapM, firstFault?_flatMap]
        simp only [failure?_ofSchemaItem]
      rw [ofStatement_createTable d hkind]
      simp only [statementNumbers, if_pos hkind]
      rw [← hitems]
      exact failure?_map _ (items.mapM (ofSchemaItem d))
    · obtain ⟨fields, hfields⟩ := ofStatement_createOther d hkind target items
      rw [hfields]
      simp only [statementNumbers, if_neg hkind]
      rfl
  | use target => rfl
  | insert target rows => rfl
  | raw keyword => rfl
  | other key => rfl

end DumpSummary.Record

namespace DumpSummary.Dump

open Record Script

/-! ## Fragments -/

/-- The numbers in the types of the columns that the statements of a fragment declare. -/
def Reading.numbers (r : Reading) (f : Fragment) : List String :=
  match r.parse f.text with
  | .ok statements => statements.flatMap statementNumbers
  | .error _ => []

variable {r : Reading} {d : Dialect} (hconvert : r.convert = ofStatement d)
include hconvert

/-- The statements of a fragment. -/
theorem failure?_convertAll (l : LineRange) (ss : List Sql.Statement) :
    failure? (r.convertAll l ss) = (firstFault? (ss.flatMap statementNumbers)).map .noRecord := by
  rw [convertAll_eq, failure?_map]
  induction ss with
  | nil => rfl
  | cons s ss ih =>
    have hs : failure? ((r.convert s).mapError Failure.noRecord) =
        (firstFault? (statementNumbers s)).map .noRecord := by
      rw [failure?_mapError, hconvert, failure?_ofStatement]
    rw [List.flatMap_cons, firstFault?_append, Option.map_or, ← hs, ← ih]
    exact failure?_both List.cons _ _

/-- **A fragment** fails in lenient reading with its first number without a value. -/
theorem failure?_fragmentRecords (f : Fragment) :
    failure? (r.fragmentRecords false f) = (firstFault? (r.numbers f)).map .noRecord := by
  unfold Reading.fragmentRecords Reading.numbers
  cases r.parse f.text with
  | error cause => rfl
  | ok statements => exact failure?_convertAll hconvert f.lines statements

/-- **Lenient reading of fragments** fails with the first number in them that has no value, and with nothing else. -/
theorem failure?_records (fs : List Fragment) :
    failure? (r.records false fs) = (firstFault? (fs.flatMap r.numbers)).map .noRecord := by
  induction fs with
  | nil => rfl
  | cons f fs ih =>
    rw [records_cons, List.flatMap_cons, firstFault?_append, Option.map_or, ← failure?_fragmentRecords hconvert, ← ih]
    exact failure?_both List.append _ _

/-! ## Dumps -/

/-- The numbers in the types of the columns that a dump declares. -/
def Reading.dumpNumbers (r : Reading) (dialect : Option String) (dump : String) : List String :=
  (split (effectiveDialect dialect dump) dump).flatMap r.numbers

omit hconvert in
/-- Reading stops at the first of some numbers that has no value, and at nothing else. -/
structure StopsAt (numbers : List String) (outcome : Except Failure (List Value)) : Prop where
  /-- It fails with the fault of that number. -/
  fault : failure? outcome = (firstFault? numbers).map .noRecord
  /-- There are records exactly if all numbers have values. -/
  records : (∃ vs, outcome = .ok vs) ↔ ∀ x ∈ numbers, Readable x

/-- **Lenient reading of a dump** stops at the first of its numbers that has no value. -/
theorem stopsAt_read (dialect : Option String) (dump : String) :
    StopsAt (r.dumpNumbers dialect dump) (r.read dialect false dump) := by
  have hfault : failure? (r.read dialect false dump) = (firstFault? (r.dumpNumbers dialect dump)).map .noRecord :=
    failure?_records hconvert _
  constructor
  case fault => exact hfault
  case records => rw [← failure?_eq_none_iff, hfault, Option.map_eq_none_iff, firstFault?_eq_none_iff]

end DumpSummary.Dump
