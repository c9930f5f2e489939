import DumpSummary.Proofs.Outcome
import DumpSummary.Proofs.Settings.Override
import DumpSummary.Settings.Load

/-!
# Accepted settings

Data that are accepted as settings may write a value in many forms: a dialect in capitals, a truth value as a word, an
indentation as a text or a floating-point number.  What comes out of them is in one form only: a dialect of the list and
an indentation within its bounds.  Such settings written as data are read back as themselves.

The same holds field by field where a command line replaces some of them.  A dialect and a format of the lists are never
refused, so an indentation is the only field that can be, and only for its size; it is checked as a number, not as
something that is present or not, so zero counts.

## Contents

* `and_eq_ok`, `of_readField`, `of_readSection`: what is read of several fields, of one field and of a section;
* `mem_configurable_of_dialect`, `le_maxIndent_of_indent`: what the two fields with rules of their own give;
* `Settings.Accepted`, `accepted_of_ofDatumWith`: **what holds of settings that data give**;
* `accepted_of_loadWith`: **settings that are loaded** are accepted;
* `Overrides.Listed`, `Settings.replaced`: fields of a command line, put in place;
* `override_of_fits`, `override_of_not_fits`: **settings with some fields replaced**;
* `ofValue_override`: both, with the settings read back.
-/

namespace DumpSummary

open Yaml (Datum)

namespace Checked

variable {α β : Type} {a : Checked α} {b : Checked β} {x : α} {y : β}

/-- Two readings succeed exactly if each of them does. -/
theorem and_eq_ok : Checked.and a b = .ok (x, y) ↔ a = .ok x ∧ b = .ok y := by
  cases a with
  | error es => cases b <;> simp [Checked.and]
  | ok x' => cases b <;> simp [Checked.and]

end Checked

/-! ## The fields with rules of their own -/

namespace Field

variable {c : Coercions} {d : Datum}

theorem mem_configurable_of_dialect {name : String} (h : Field.dialect c d = .ok name) :
    name ∈ Dialect.configurable := by
  unfold Field.dialect at h
  obtain ⟨written, _, h⟩ := exists_of_bind h
  dsimp only at h
  split at h
  · rename_i hlisted
    cases h
    exact List.contains_iff_mem.mp hlisted
  · cases h

/-- A dialect of the list is written in the form in which it is read. -/
theorem dialect_of_mem_configurable (hc : c.ReadsBack) {name : String} (h : name ∈ Dialect.configurable) :
    Field.dialect c (.text name) = .ok name := by
  have hall : ∀ name ∈ Dialect.configurable, String.ofList (name.toList.map small) = name := by decide +kernel
  unfold Field.dialect
  rw [hc.text]
  show (if Dialect.configurable.contains (String.ofList (name.toList.map small)) then _ else _) = _
  rw [hall name h, if_pos (List.contains_iff_mem.mpr h)]
  rfl

theorem le_maxIndent_of_indent {n : Nat} (h : Field.indent c d = .ok n) : n ≤ Settings.maxIndent := by
  unfold Field.indent at h
  obtain ⟨number, _, h⟩ := exists_of_bind h
  split at h
  · cases h
  · split at h
    · cases h
    · cases h
      omega

/-- A number is checked for its size only. -/
theorem indent_int (hc : c.ReadsBack) (n : Int) :
    Field.indent c (.int n) =
      if n < 0 then .error .tooSmall else if n > Settings.maxIndent then .error .tooGreat else .ok n.toNat := by
  unfold Field.indent
  rw [hc.whole]
  rfl

/-- A number is an indentation if it is within the bounds. -/
theorem indent_of_fits (hc : c.ReadsBack) {n : Int} (h : 0 ≤ n ∧ n ≤ Settings.maxIndent) :
    Field.indent c (.int n) = .ok n.toNat := by
  rw [indent_int hc, if_neg (by omega), if_neg (by omega)]

/-- A number that is out of bounds is refused for it. -/
theorem indent_of_not_fits (hc : c.ReadsBack) {n : Int} (h : n < 0 ∨ Settings.maxIndent < n) :
    Field.indent c (.int n) = .error (if n < 0 then .tooSmall else .tooGreat) := by
  rw [indent_int hc]
  by_cases hneg : n < 0
  · rw [if_pos hneg, if_pos hneg]
  · rw [if_neg hneg, if_neg hneg, if_pos (h.resolve_left hneg)]

end Field

/-! ## Settings that data give -/

namespace Settings

/-- What holds of settings that are accepted. -/
structure Accepted (s : Settings) : Prop where
  /-- The dialect is one of the list. -/
  dialect : s.reading.dialect ∈ Dialect.configurable
  /-- The indentation is within its bounds. -/
  indent : s.output.indent ≤ maxIndent

/-- What holds where nothing is configured is accepted. -/
theorem accepted_default : default.Accepted where
  dialect := by decide
  indent := by decide

section

variable {α : Type} {P : α → Prop} {es : List (Datum × Datum)} {default a : α}

/-- What holds of the default and of whatever a field can be read as holds of the field. -/
theorem of_readField {sectionName name : String} {read : Datum → Except FieldFault α} (hdefault : P default)
    (hread : ∀ d a, read d = .ok a → P a) (h : readField es sectionName name read default = .ok a) : P a := by
  unfold readField at h
  split at h
  · cases h
    exact hdefault
  · exact hread _ a (eq_of_mapError h)

/-- What holds of the default and of whatever a section can be read as holds of the section. -/
theorem of_readSection {name : String} {read : List (Datum × Datum) → Checked α} (hdefault : P default)
    (hread : ∀ es a, read es = .ok a → P a) (h : readSection es name read default = .ok a) : P a := by
  unfold readSection at h
  split at h
  · cases h
    exact hdefault
  · exact hread _ a h
  · cases h

end

variable {c : Coercions}

theorem mem_configurable_of_readReading {es : List (Datum × Datum)} {r : ReadingSettings}
    (h : readReading c es = .ok r) : r.dialect ∈ Dialect.configurable := by
  obtain ⟨⟨dialect, strict, encoding⟩, hfields, rfl⟩ := exists_of_map h
  have hdialect := (Checked.and_eq_ok.mp hfields).1
  exact of_readField (P := (· ∈ Dialect.configurable)) accepted_default.dialect
    (fun _ _ => Field.mem_configurable_of_dialect) hdialect

theorem le_maxIndent_of_readOutput {es : List (Datum × Datum)} {o : OutputSettings} (h : readOutput c es = .ok o) :
    o.indent ≤ maxIndent := by
  obtain ⟨⟨format, indent⟩, hfields, rfl⟩ := exists_of_map h
  have hindent := (Checked.and_eq_ok.mp hfields).2
  exact of_readField (P := (· ≤ maxIndent)) accepted_default.indent (fun _ _ => Field.le_maxIndent_of_indent) hindent

/-- **What holds of settings that data give.** -/
theorem accepted_of_ofDatumWith {d : Datum} {s : Settings} (h : ofDatumWith c d = .ok s) : s.Accepted := by
  cases d with
  | mapping es =>
    obtain ⟨⟨reading, output, log⟩, hsections, rfl⟩ := exists_of_map h
    obtain ⟨hreading, hrest⟩ := Checked.and_eq_ok.mp hsections
    have houtput := (Checked.and_eq_ok.mp hrest).1
    constructor
    · exact of_readSection (P := (·.dialect ∈ Dialect.configurable)) accepted_default.dialect
        (fun _ _ => mem_configurable_of_readReading) hreading
    · exact of_readSection (P := (·.indent ≤ maxIndent)) accepted_default.indent
        (fun _ _ => le_maxIndent_of_readOutput) houtput
  | _ => cases h

/-! ## Settings that are loaded -/

theorem accepted_of_ofFileWith {loader : Loader} {files : FileTree} {path : String} {s : Settings}
    (h : ofFileWith loader files path = .ok s) : s.Accepted := by
  unfold ofFileWith at h
  dsimp only at h
  split at h
  · cases h
  split at h
  · cases h
  split at h
  · cases h
  split at h
  · cases h
  exact accepted_of_ofDatumWith (eq_of_mapError h)

/-- **Settings that are loaded** are accepted, whatever they come from. -/
theorem accepted_of_loadWith {loader : Loader} {files : FileTree} {environment path : Option String} {s : Settings}
    (h : loadWith loader files environment path = .ok s) : s.Accepted := by
  unfold loadWith at h
  split at h
  · exact accepted_of_ofFileWith h
  · cases h
    exact accepted_default

end Settings

/-! ## Fields of a command line -/

/-- The dialect and the format of a command line are of the lists that it is held to. -/
structure Overrides.Listed (o : Overrides) : Prop where
  /-- The dialect is one that can be configured. -/
  dialect : ∀ name ∈ o.dialect, name ∈ Dialect.configurable
  /-- The format is one of all formats. -/
  format : ∀ name ∈ o.format, name ∈ OutputFormat.all.map OutputFormat.name

namespace Settings

/-- The settings with the fields of a command line in place of their own, and all other fields as they are.  Strict
reading can be switched on only. -/
def replaced (s : Settings) (o : Overrides) : Settings :=
  { s with
    reading := { s.reading with
      dialect := o.dialect.getD s.reading.dialect
      strict := s.reading.strict || o.strict }
    output :=
      { format := (o.format.bind OutputFormat.ofName?).getD s.output.format
        indent := (o.indent.map Int.toNat).getD s.output.indent } }

variable {c : Coercions} (hc : c.ReadsBack) {s : Settings} {o : Overrides}

include hc in
/-- Reading is never refused. -/
theorem overriddenReading_eq (hs : s.Accepted) (ho : o.Listed) :
    s.overriddenReading c o = .ok (s.replaced o).reading := by
  have hmem : o.dialect.getD s.reading.dialect ∈ Dialect.configurable := by
    cases hd : o.dialect with
    | none => exact hs.dialect
    | some name => exact ho.dialect name hd
  unfold overriddenReading
  rw [Field.dialect_of_mem_configurable hc hmem]
  rfl

/-- The format is never refused. -/
theorem choice_getD (ho : o.Listed) :
    Field.choice OutputFormat.ofName? (.text (o.format.getD s.output.format.name)) = .ok (s.replaced o).output.format := by
  unfold replaced
  cases hf : o.format with
  | none => exact Field.choice_format s.output.format
  | some name =>
    obtain ⟨format, _, rfl⟩ := List.mem_map.mp (ho.format name hf)
    cases format <;> rfl

include hc

/-- **An indentation within its bounds**, or none: the fields of the command line are put in place. -/
theorem override_of_fits (hs : s.Accepted) (ho : o.Listed) (hindent : ∀ n ∈ o.indent, 0 ≤ n ∧ n ≤ maxIndent) :
    s.overrideWith c o = .ok (s.replaced o) := by
  have hnumber : Field.indent c (.int (o.indent.getD s.output.indent)) = .ok (s.replaced o).output.indent := by
    unfold replaced
    cases hn : o.indent with
    | none => exact Field.indent_of_fits hc ⟨Int.natCast_nonneg _, Int.ofNat_le.mpr hs.indent⟩
    | some n => exact Field.indent_of_fits hc (hindent n hn)
  rw [overrideWith_eq _ _ hc, overriddenReading_eq hc hs ho]
  unfold overriddenOutput
  rw [choice_getD ho, hnumber]
  rfl

/-- **An indentation out of its bounds** is refused, and nothing else is. -/
theorem override_of_not_fits (hs : s.Accepted) (ho : o.Listed) {n : Int} (hn : o.indent = some n)
    (hout : n < 0 ∨ maxIndent < n) :
    s.overrideWith c o = .error [⟨["output", "indent"], if n < 0 then .tooSmall else .tooGreat⟩] := by
  rw [overrideWith_eq _ _ hc, overriddenReading_eq hc hs ho]
  unfold overriddenOutput
  rw [choice_getD ho, hn, Option.getD_some, Field.indent_of_not_fits hc hout]
  rfl

/-- **Accepted settings written as data** are read back. -/
theorem ofValueWith_toValue (hs : s.Accepted) : ofValueWith c s.toValue = .ok s := by
  have hnothing : Overrides.Listed ⟨none, false, none, none⟩ := by
    constructor <;> simp
  have hkept : s.overridden ⟨none, false, none, none⟩ = s.toValue := by
    simp [overridden, toValue]
  have hread := override_of_fits hc hs hnothing (by simp)
  rw [overrideWith, hkept] at hread
  rw [hread]
  simp [replaced]

/-- **Accepted settings and a command line**, under any coercions that read texts, truth values and whole numbers as
themselves, such as those of this library.  Settings that data give have a dialect, a format and a level of the lists
and an indentation within its bounds, and written as data they are read back.  With a dialect and a format of the lists,
or none, a command line is refused exactly if its indentation is out of the bounds; else its fields, and only these, take
the place of the settings' own. -/
theorem ofValue_override {data : Value} (h : ofValueWith c data = .ok s) :
    s.reading.dialect ∈ Dialect.configurable ∧ (0 ≤ s.output.indent ∧ s.output.indent ≤ 8) ∧
    s.output.format.name ∈ ["json", "markdown"] ∧ s.log.level.name ∈ ["DEBUG", "INFO", "WARNING", "ERROR"] ∧
    ofValueWith c s.toValue = .ok s ∧
    ∀ o : Overrides, o.Listed →
      ((∃ errors, s.overrideWith c o = .error errors) ↔ ∃ n, o.indent = some n ∧ (n < 0 ∨ 8 < n)) ∧
      ((∀ n, o.indent = some n → 0 ≤ n ∧ n ≤ 8) → s.overrideWith c o = .ok (s.replaced o)) := by
  have hs := accepted_of_ofDatumWith h
  refine ⟨hs.dialect, ⟨Nat.zero_le _, hs.indent⟩, ?_, ?_, ofValueWith_toValue hc hs, fun o ho => ⟨⟨?_, ?_⟩, ?_⟩⟩
  · cases s.output.format <;> decide
  · cases s.log.level <;> decide
  · rintro ⟨errors, herror⟩
    by_cases hfits : ∀ n ∈ o.indent, 0 ≤ n ∧ n ≤ maxIndent
    · rw [override_of_fits hc hs ho hfits] at herror
      cases herror
    · simp only [not_forall] at hfits
      obtain ⟨n, hn, hout⟩ := hfits
      simp only [maxIndent] at hout
      exact ⟨n, hn, by omega⟩
  · rintro ⟨n, hn, hout⟩
    exact ⟨_, override_of_not_fits hc hs ho hn hout⟩
  · exact override_of_fits hc hs ho

omit hc in
/-- Settings written in other forms than the one they are read in, with an indentation of zero and one out of bounds. -/
theorem ofValue_override_written :
    let data : Value := .record [
      ("parser", .record [("dialect", .text "MySQL"), ("strict", .text "Yes")]),
      ("output", .record [("format", .text "markdown"), ("indent", .text " +3.0 ")])]
    let s : Settings := { default with reading := ⟨"mysql", true, "utf-8"⟩, output := ⟨.markdown, 3⟩ }
    ofValue data = .ok s ∧ ofValue s.toValue = .ok s ∧
      s.override ⟨some "oracle", false, some "json", some 0⟩
        = .ok { s with reading := ⟨"oracle", true, "utf-8"⟩, output := ⟨.json, 0⟩ } ∧
      ∃ errors, s.override ⟨none, true, none, some 9⟩ = .error errors := by
  intro data s
  have hdata : ofValue data = .ok s := by rfl
  obtain ⟨-, -, -, -, hread, hmerge⟩ := ofValue_override Coercions.readsBack_own hdata
  have hlisted : Overrides.Listed ⟨some "oracle", false, some "json", some 0⟩ := by
    constructor <;> simp [Dialect.configurable, OutputFormat.all, OutputFormat.name]
  have hlisted' : Overrides.Listed ⟨none, true, none, some 9⟩ := by
    constructor <;> simp
  have hzero := (hmerge _ hlisted).2 fun n hn => by
    cases hn
    decide
  exact ⟨hdata, hread, hzero, (hmerge _ hlisted').1.mpr ⟨9, rfl, by decide⟩⟩

end Settings
end DumpSummary
