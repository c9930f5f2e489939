import DumpSummary.Settings.Validate

/-!
# Settings that a command line replaces

Settings with some fields replaced are read like those of a document.  What is replaced belongs to two sections, whose
fields are checked one by one; the section about the log stays as it is.  A format of the list is never refused, so it
takes the place of the configured one and changes nothing else.

All of this is so whatever else the coercions take for a text, a truth value or a whole number, if they read each of
these as itself.

## Contents

* `Coercions.ReadsBack`, `Coercions.readsBack_own`: coercions that read texts, truth values and whole numbers as
  themselves;
* `Field.choice_format`, `Field.choice_level`: values of a list, by their names;
* `Settings.overriddenReading`, `Settings.overriddenOutput`: the two sections;
* `Settings.overrideWith_eq`: **the settings with some fields replaced**, section by section;
* `Settings.override_format`: a format that is replaced.
-/

namespace DumpSummary

open Yaml (Datum)

/-- A text, a truth value and a whole number are read as what they are. -/
structure Coercions.ReadsBack (c : Coercions) : Prop where
  /-- A text is. -/
  text : ∀ t, c.text (.text t) = .ok t
  /-- A truth value is. -/
  truth : ∀ b, c.truth (.bool b) = .ok b
  /-- A whole number is. -/
  whole : ∀ n, c.whole (.int n) = .ok n

/-- **The coercions of this library** read them so. -/
theorem Coercions.readsBack_own : Coercions.own.ReadsBack := ⟨fun _ => rfl, fun _ => rfl, fun _ => rfl⟩

/-- A format of the list is read from its name. -/
theorem Field.choice_format (format : OutputFormat) :
    Field.choice OutputFormat.ofName? (.text format.name) = .ok format := by
  cases format <;> rfl

/-- A level of the list is read from its name. -/
theorem Field.choice_level (level : LogLevel) : Field.choice LogLevel.ofName? (.text level.name) = .ok level := by
  cases level <;> rfl

namespace Settings

variable (c : Coercions) (s : Settings) (o : Overrides)

/-- How a dump is read, with the fields of a command line. -/
def overriddenReading : Checked ReadingSettings :=
  ((Field.dialect c (.text (o.dialect.getD s.reading.dialect))).mapError fun f => [⟨["parser", "dialect"], f⟩]).map
    fun dialect => ⟨dialect, s.reading.strict || o.strict, s.reading.encoding⟩

/-- How a summary is written, with the fields of a command line. -/
def overriddenOutput : Checked OutputSettings :=
  (Checked.and
    ((Field.choice OutputFormat.ofName? (.text (o.format.getD s.output.format.name))).mapError fun f =>
      [⟨["output", "format"], f⟩])
    ((Field.indent c (.int (o.indent.getD s.output.indent))).mapError fun f => [⟨["output", "indent"], f⟩])).map
    fun r => ⟨r.1, r.2⟩

variable {c}

/-- **Settings with some fields replaced** are read section by section, and keep what they log. -/
theorem overrideWith_eq (hc : c.ReadsBack) :
    s.overrideWith c o
      = (Checked.and (s.overriddenReading c o) (s.overriddenOutput c o)).map fun r => ⟨r.1, r.2, s.log⟩ := by
  have hreading : readReading c (Datum.ofFields
      [("dialect", .text (o.dialect.getD s.reading.dialect)), ("strict", .bool (s.reading.strict || o.strict)),
        ("encoding", .text s.reading.encoding)]) = s.overriddenReading c o := by
    show (Checked.and ((Field.dialect c (.text (o.dialect.getD s.reading.dialect))).mapError _)
      (Checked.and ((c.truth (.bool (s.reading.strict || o.strict))).mapError _)
        ((c.text (.text s.reading.encoding)).mapError _))).map _ = _
    rw [hc.truth, hc.text]
    unfold overriddenReading
    cases Field.dialect c (.text (o.dialect.getD s.reading.dialect)) <;> rfl
  have houtput : readOutput c (Datum.ofFields
      [("format", .text (o.format.getD s.output.format.name)), ("indent", .int (o.indent.getD s.output.indent))])
      = s.overriddenOutput c o := rfl
  have hlog : readLog c (Datum.ofFields [("level", .text s.log.level.name), ("format", .text s.log.format)])
      = .ok s.log := by
    show (Checked.and ((Field.choice LogLevel.ofName? (.text s.log.level.name)).mapError _)
      ((c.text (.text s.log.format)).mapError _)).map _ = _
    rw [Field.choice_level, hc.text]
    rfl
  show (Checked.and (readReading c _) (Checked.and (readOutput c _) (readLog c _))).map _ = _
  rw [hreading, houtput, hlog]
  cases s.overriddenReading c o <;> cases s.overriddenOutput c o <;> rfl

/-- **A format of the list** takes the place of the configured one. -/
theorem override_format (format : OutputFormat) (h : o.format = none) :
    s.override { o with format := some format.name }
      = (s.override o).map fun r => { r with output := { r.output with format := format } } := by
  have hreading : s.overriddenReading .own { o with format := some format.name } = s.overriddenReading .own o := rfl
  have houtput : s.overriddenOutput .own { o with format := some format.name }
      = (s.overriddenOutput .own o).map fun r => { r with format := format } := by
    unfold overriddenOutput
    simp only [h, Option.getD_some, Option.getD_none, Field.choice_format]
    cases Field.indent .own (.int (o.indent.getD s.output.indent)) <;> rfl
  unfold override
  rw [overrideWith_eq _ _ Coercions.readsBack_own, overrideWith_eq _ _ Coercions.readsBack_own, hreading, houtput]
  cases s.overriddenReading .own o <;> cases s.overriddenOutput .own o <;> rfl

end Settings
end DumpSummary
