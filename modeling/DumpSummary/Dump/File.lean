import DumpSummary.Dump.Read
import DumpSummary.File.Tree
import DumpSummary.Text.Encoding
import DumpSummary.Text.Lines

/-!
# Reading a dump from a file

The bytes of the file are decoded in the encoding that the user names, and line ends are unified before anything
else sees the text.

## Contents

* `InputFault`, `InputFault.message`: why a file gives no text;
* `textOf`: the text of bytes under an encoding name;
* `fileText`: the text of a dump file;
* `fileRecords`, `fileSummary`: its records and its summary.
-/

namespace DumpSummary.Dump

/-- Why a file gives no text. -/
inductive InputFault
  /-- There is no such file. -/
  | notFound (p : Path)
  /-- The file cannot be read. -/
  | unreadable (f : FileFault)
  /-- The encoding name is not known. -/
  | unknownEncoding (name : String)
  /-- The bytes are no text in the encoding. -/
  | undecodable (f : Text.DecodeFault)
  deriving DecidableEq, Repr

/-- The message. -/
def InputFault.message : InputFault → String
  | .notFound p => "SQL file not found: " ++ p.text
  | .unreadable f => f.message
  | .unknownEncoding name => "unknown encoding: " ++ name
  | .undecodable f => f.message

/-- Why a file gives no records. -/
inductive FileFailure
  /-- The file gives no text. -/
  | input (f : InputFault)
  /-- The text gives no records. -/
  | dump (f : Failure)
  deriving DecidableEq, Repr

/-- The text of bytes under an encoding name, line ends unified. -/
def textOf (encoding : String) (content : Bytes) : Except InputFault String :=
  match Text.Encoding.ofName? encoding with
  | none => .error (.unknownEncoding encoding)
  | some e =>
    match e.decode content with
    | .error f => .error (.undecodable f)
    | .ok cs => .ok (String.ofList (Text.unifyLines cs))

/-- The text of a dump file. -/
def fileText (files : FileTree) (path encoding : String) : Except InputFault String :=
  let p := Path.ofText path
  if files.holds p then
    match files.read p with
    | .error f => .error (.unreadable f)
    | .ok content => textOf encoding content
  else .error (.notFound p)

/-- The records of a dump file. -/
def fileRecords (files : FileTree) (path : String) (dialect : Option String) (strict : Bool) (encoding : String) :
    Except FileFailure (List Value) :=
  match fileText files path encoding with
  | .error f => .error (.input f)
  | .ok dump => (read dialect strict dump).mapError .dump

/-- The summary of a dump file. -/
def fileSummary (files : FileTree) (path : String) (dialect : Option String) (strict : Bool) (encoding : String) :
    Except FileFailure Summary :=
  match fileText files path encoding with
  | .error f => .error (.input f)
  | .ok dump => (summarizeDump dialect strict dump).mapError .dump

end DumpSummary.Dump
