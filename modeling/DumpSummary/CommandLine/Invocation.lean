import DumpSummary.CommandLine.Flag
import DumpSummary.Settings.Validate

/-!
# What a command line asks for

There are two commands: one summarizes a dump, the other prints its records.  Both take the dump and say how to read
it; the first also says how and where to write the summary.

## Contents

* `Command`, `Invocation`: the commands and what they are given;
* `mainInterface`, `analyzeInterface`, `statementsInterface`: their flags;
* `Invocation.ofWords`: what a command line asks for.
-/

namespace DumpSummary.CommandLine

/-- A command. -/
inductive Command
  /-- Summarize a dump, and write the summary to a file if one is named. -/
  | analyze (output : Option String)
  /-- Print the records of a dump. -/
  | statements
  deriving DecidableEq, Repr

/-- What a command line asks for. -/
structure Invocation where
  /-- The file of settings, if one is named. -/
  settings : Option String
  /-- The command. -/
  command : Command
  /-- The dump. -/
  dump : String
  /-- The settings that the command line replaces. -/
  overrides : Overrides
  deriving DecidableEq, Repr

/-- The name of the program. -/
def programName : String := "sqldump-analyzer"

/-- The flag that asks for help. -/
def helpFlag : Flag := ⟨["-h", "--help"], .help⟩

/-- The flags that say how to read a dump. -/
def readingFlags : List Flag :=
  [⟨["--dialect"], .oneOf Dialect.configurable⟩, ⟨["--strict"], .none⟩]

/-- The names of the commands. -/
def commandNames : List String := ["analyze", "statements"]

/-- The flags before the command. -/
def mainInterface : Interface :=
  ⟨programName, [helpFlag, ⟨["--config"], .text⟩], "cmd", true⟩

/-- The flags of the command that summarizes. -/
def analyzeInterface : Interface :=
  ⟨programName ++ " analyze",
    helpFlag :: readingFlags
      ++ [⟨["--format"], .oneOf (OutputFormat.all.map (·.name))⟩, ⟨["--indent"], .number⟩,
        ⟨["--output", "-o"], .text⟩],
    "path", false⟩

/-- The flags of the command that prints records. -/
def statementsInterface : Interface :=
  ⟨programName ++ " statements", helpFlag :: readingFlags, "path", false⟩

/-- What the words of a command ask for. -/
def invocation (settings : Option String) (command : Command) (given : Interface.Given) : Invocation :=
  ⟨settings, command, given.operand.headD "",
    ⟨given.value? "--dialect", (given.value? "--strict").isSome, given.value? "--format",
      (given.value? "--indent").bind number?⟩⟩

/-- What a command line asks for.  Words without a meaning are reported last, those before the command first. -/
def Invocation.ofWords (words : List String) : Except Stop Invocation := do
  let main ← mainInterface.read words
  let name := main.operand.headD ""
  let rest := main.operand.drop 1
  let settings := main.value? "--config"
  let finish (given : Interface.Given) (i : Invocation) : Except Stop Invocation :=
    let extras := main.extras ++ given.extras
    if extras.isEmpty then .ok i else .error (.usage programName (.unrecognized extras))
  if name == "analyze" then
    let given ← analyzeInterface.read rest
    finish given (invocation settings (.analyze (given.value? "--output")) given)
  else if name == "statements" then
    let given ← statementsInterface.read rest
    finish given (invocation settings .statements given)
  else throw (.usage programName (.invalidChoice mainInterface.operand name commandNames))

end DumpSummary.CommandLine
