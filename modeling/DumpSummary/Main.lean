import DumpSummary.CommandLine.Run

/-!
# The program

Looks at the files that the command line can lead to, runs on what it has seen, and brings about what the run asks
for.
-/

namespace DumpSummary.Program

open CommandLine

/-- What stands at a path of the disk. -/
def look (p : Path) : IO (Option Entry) := do
  try
    return some (.file (← IO.FS.readBinFile p.text).toList)
  catch
    | .inappropriateType _ code _ => return if code == 21 then some .directory else none
    | _ => return none

/-- The files of the disk that a run looks at. -/
def survey (paths : List Path) : IO FileTree := do
  let entries ← paths.filterMapM fun p => do
    return (← look p).map fun e => (FileTree.place p, e)
  return ⟨entries⟩

/-- Runs the program: 0 means success. -/
def execute (words : List String) : IO UInt32 := do
  let environment ← IO.getEnv Settings.variableName
  let files ← survey (inspected environment words)
  let outcome := run files environment words
  for change in files.changes outcome.files do
    IO.FS.writeBinFile change.1.text ⟨change.2.toArray⟩
  IO.print outcome.stdout
  for line in outcome.stderr do
    IO.eprintln line
  return UInt32.ofNat outcome.exit

end DumpSummary.Program

/-- The entry point. -/
def main (words : List String) : IO UInt32 :=
  DumpSummary.Program.execute words
