import DumpSummary.CommandLine.Invocation
import DumpSummary.Dump.File
import DumpSummary.Settings.Load
import DumpSummary.Settings.LogFormat
import DumpSummary.Summary.Report

/-!
# A run of the program

A run reads its command line, its settings and its dump, and only then writes: to the output, or to the one file that
the command line names.  So a run that fails has written nothing.

## Contents

* `RunFault`, `RunFault.headline`: why a run fails;
* `Outcome`: what a run leaves behind;
* `settingsFor`: the settings of a run;
* `textFor`: what a command prints;
* `run`: a run;
* `inspected`: the paths that a run looks at.
-/

namespace DumpSummary.CommandLine

/-- Why a run fails. -/
inductive RunFault
  /-- There are no settings. -/
  | settings (f : Settings.LoadFault)
  /-- The settings of the command line are refused. -/
  | overrides (errors : List FieldError)
  /-- The form of log lines is refused. -/
  | logFormat (form : String)
  /-- The dump gives no records. -/
  | dump (f : Dump.FileFailure)
  /-- The summary cannot be written. -/
  | output (f : FileFault)
  deriving DecidableEq, Repr

/-- The first line of the message about a dump.  About a statement that cannot be read it gives the lines only. -/
def dumpHeadline : Dump.FileFailure → String
  | .input f => f.message
  | .dump (.unknownDialect name) => "Unknown dialect " ++ Text.quoted name ++ "."
  | .dump (.noRecord fault) => fault.message
  | .dump (.rejected _ lines) => "lines " ++ Nat.repr lines.first ++ "-" ++ Nat.repr lines.last ++ ":"

/-- The first line of the message. -/
def RunFault.headline : RunFault → String
  | .settings f => f.headline
  | .overrides errors => Settings.countText errors
  | .logFormat form => LogFormat.refusal form
  | .dump f => dumpHeadline f
  | .output f => f.message

/-- What a run leaves behind. -/
structure Outcome where
  /-- The exit code: 0 for success, 1 for a failure, 2 for a wrong command line. -/
  exit : Nat
  /-- The text that is printed. -/
  stdout : String
  /-- The lines that are reported. -/
  stderr : List String
  /-- The files afterwards. -/
  files : FileTree

/-- The settings of a run: those of a file with the command line's put in, whose log form must be accepted. -/
def settingsFor (files : FileTree) (environment : Option String) (i : Invocation) : Except RunFault Settings := do
  let base ← (Settings.load files environment i.settings).mapError .settings
  let settings ← (base.override i.overrides).mapError .overrides
  if LogFormat.isValid settings.log.format then return settings else throw (.logFormat settings.log.format)

/-- The summary as text in the format of the settings. -/
def summaryText (s : Settings) (summary : Summary) : String :=
  match s.output.format with
  | .json => summary.toJson (some s.output.indent) ++ "\n"
  | .markdown => summary.report

/-- The records as text. -/
def recordsText (s : Settings) (records : List Value) : String :=
  Json.write (.ofIndent (some s.output.indent)) (.list records) ++ "\n"

/-- What a command prints. -/
def textFor (files : FileTree) (s : Settings) (i : Invocation) : Except RunFault String :=
  let r := s.reading
  match i.command with
  | .analyze _ =>
    ((Dump.fileSummary files i.dump (some r.dialect) r.strict r.encoding).mapError .dump).map (summaryText s)
  | .statements =>
    ((Dump.fileRecords files i.dump (some r.dialect) r.strict r.encoding).mapError .dump).map (recordsText s)

/-- The file that a command writes to, if it does not print; an empty name is none. -/
def outputFile? (i : Invocation) : Option String :=
  match i.command with
  | .analyze output => output.filter (· ≠ "")
  | .statements => none

/-- What a failed run leaves behind: the files as they were. -/
def failed (files : FileTree) (f : RunFault) : Outcome :=
  ⟨1, "", ["Error: " ++ Text.firstLine f.headline], files⟩

/-- Delivers a text: prints it, or writes it to a file and reports that. -/
def deliver (files : FileTree) (output : Option String) (text : String) : Outcome :=
  match output with
  | none => ⟨0, text, [], files⟩
  | some name =>
    match files.write (Path.ofText name) text.toUTF8.toList with
    | .ok after => ⟨0, "", ["✓ " ++ Text.firstLine ("Report written to " ++ name)], after⟩
    | .error f => failed files (.output f)

/-- Runs what a command line asks for. -/
def runInvocation (files : FileTree) (environment : Option String) (i : Invocation) : Outcome :=
  match settingsFor files environment i with
  | .error f => failed files f
  | .ok s =>
    match textFor files s i with
    | .error f => failed files f
    | .ok text => deliver files (outputFile? i) text

/-- The text about a command's usage. -/
def helpText (command : String) : String :=
  let line (i : Interface) : String :=
    "usage: " ++ i.command ++ String.join (i.flags.map fun f => " [" ++ f.label ++ "]") ++ " " ++ i.operand ++ "\n"
  String.join (([mainInterface, analyzeInterface, statementsInterface].filter (·.command == command)).map line)

/-- A run on files, with the name of the file of settings that the environment gives. -/
def run (files : FileTree) (environment : Option String) (words : List String) : Outcome :=
  match Invocation.ofWords words with
  | .ok i => runInvocation files environment i
  | .error (.usage command fault) => ⟨2, "", [command ++ ": error: " ++ Text.firstLine fault.message], files⟩
  | .error (.help command) => ⟨0, helpText command, [], files⟩
  | .error .lostValue => ⟨1, "", [], files⟩

/-- The files that a command line can lead to. -/
def namedFiles (environment : Option String) (words : List String) : List String :=
  match Invocation.ofWords words with
  | .ok i => [Settings.usualPlace, i.dump] ++ environment.toList ++ i.settings.toList ++ (outputFile? i).toList
  | .error _ => []

/-- The paths that a run looks at: the files that it can be led to, and what stands on the way to them. -/
def inspected (environment : Option String) (words : List String) : List Path :=
  ((namedFiles environment words).flatMap fun s => (Path.ofText s).beginnings).eraseDups

end DumpSummary.CommandLine
