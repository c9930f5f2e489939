import DumpSummary.Settings.Field

/-!
# Settings from data

Data are settings if they are a record of sections, each section is a record, and each field in it can be read.  What
is absent has its default, what is not known is ignored, and all faults are reported, in the order of the fields.

## Contents

* `FieldError`, `Checked`, `Checked.and`: faults with their places, and readings that collect them;
* `Settings.ofDatumWith`, `Settings.ofValueWith`: settings from data, under some coercions;
* `Overrides`, `Settings.overrideWith`: settings with some fields replaced;
* `Settings.ofDatum`, `Settings.ofValue`, `Settings.override`: the same under the coercions of this library.
-/

namespace DumpSummary

open Yaml (Datum)

/-- A fault and its place: the names that lead to it. -/
structure FieldError where
  /-- The names that lead to the field. -/
  place : List String
  /-- What is wrong. -/
  fault : FieldFault
  deriving DecidableEq, Repr

/-- A reading that collects faults. -/
abbrev Checked (α : Type) := Except (List FieldError) α

namespace Checked

/-- Two readings, with the faults of both. -/
def and {α β : Type} (a : Checked α) (b : Checked β) : Checked (α × β) :=
  match a, b with
  | .ok x, .ok y => .ok (x, y)
  | .error es, .ok _ => .error es
  | .ok _, .error es => .error es
  | .error es, .error fs => .error (es ++ fs)

end Checked

namespace Settings

/-- A field of a section, the default where it is absent. -/
def readField {α : Type} (entries : List (Datum × Datum)) (sectionName name : String)
    (read : Datum → Except FieldFault α) (default : α) : Checked α :=
  match Datum.field? entries name with
  | none => .ok default
  | some d => (read d).mapError fun f => [⟨[sectionName, name], f⟩]

/-- A section, the default where it is absent. -/
def readSection {α : Type} (entries : List (Datum × Datum)) (name : String)
    (read : List (Datum × Datum) → Checked α) (default : α) : Checked α :=
  match Datum.field? entries name with
  | none => .ok default
  | some (.mapping es) => read es
  | some _ => .error [⟨[name], .notRecord⟩]

section

variable (c : Coercions)

/-- How a dump is read. -/
def readReading (es : List (Datum × Datum)) : Checked ReadingSettings :=
  let d := default.reading
  ((readField es "parser" "dialect" (Field.dialect c) d.dialect).and
    ((readField es "parser" "strict" c.truth d.strict).and
      (readField es "parser" "encoding" c.text d.encoding))).map fun r => ⟨r.1, r.2.1, r.2.2⟩

/-- How a summary is written. -/
def readOutput (es : List (Datum × Datum)) : Checked OutputSettings :=
  let d := default.output
  ((readField es "output" "format" (Field.choice OutputFormat.ofName?) d.format).and
    (readField es "output" "indent" (Field.indent c) d.indent)).map fun r => ⟨r.1, r.2⟩

/-- What is logged. -/
def readLog (es : List (Datum × Datum)) : Checked LogSettings :=
  let d := default.log
  ((readField es "logging" "level" (Field.choice LogLevel.ofName?) d.level).and
    (readField es "logging" "format" c.text d.format)).map fun r => ⟨r.1, r.2⟩

/-- The settings that a value of a document gives. -/
def ofDatumWith : Datum → Checked Settings
  | .mapping es =>
    ((readSection es "parser" (readReading c) default.reading).and
      ((readSection es "output" (readOutput c) default.output).and
        (readSection es "logging" (readLog c) default.log))).map fun r => ⟨r.1, r.2.1, r.2.2⟩
  | _ => .error [⟨[], .notRecord⟩]

/-- The settings that data give. -/
def ofValueWith (v : Value) : Checked Settings := ofDatumWith c (.ofValue v)

end

/-- The settings that a value of a document gives, under the coercions of this library. -/
def ofDatum : Datum → Checked Settings := ofDatumWith .own

/-- The settings that data give, under the coercions of this library. -/
def ofValue : Value → Checked Settings := ofValueWith .own

end Settings

/-- Fields that a command line replaces. -/
structure Overrides where
  /-- The dialect, if it is replaced. -/
  dialect : Option String
  /-- Whether strict reading is switched on. -/
  strict : Bool
  /-- The format, if it is replaced. -/
  format : Option String
  /-- The indentation, if it is replaced. -/
  indent : Option Int
  deriving DecidableEq, Repr

/-- The settings as data, with some fields replaced. -/
def Settings.overridden (s : Settings) (o : Overrides) : Value :=
  .record [
    ("parser", .record [("dialect", .text (o.dialect.getD s.reading.dialect)),
      ("strict", .bool (s.reading.strict || o.strict)), ("encoding", .text s.reading.encoding)]),
    ("output", .record [("format", .text (o.format.getD s.output.format.name)),
      ("indent", .int (o.indent.getD s.output.indent))]),
    ("logging", .record [("level", .text s.log.level.name), ("format", .text s.log.format)])]

/-- The settings with some fields replaced.  They are held to the same rules as the settings of a file. -/
def Settings.overrideWith (c : Coercions) (s : Settings) (o : Overrides) : Checked Settings :=
  ofValueWith c (s.overridden o)

/-- The settings with some fields replaced, under the coercions of this library. -/
def Settings.override : Settings → Overrides → Checked Settings := overrideWith .own

end DumpSummary
