import DumpSummary.Settings.Validate
import DumpSummary.File.Tree
import DumpSummary.Text.Encoding
import DumpSummary.Text.Lines
import DumpSummary.Yaml.Build

/-!
# Settings from files

Settings come from the file that the user names, else from the file that the environment names, else from the usual
place if there is a file, and else are the defaults.

How the bytes of a file become a value is the business of a *loader*.  The loader of this library decodes the whole
file before it looks for tokens, so of several faults in a long file it need not report the one that stands first.

## Contents

* `Settings.Loader`, `Settings.Loader.own`: from the bytes of a file to a value;
* `Settings.LoadFault`, `LoadFault.headline`: why there are no settings;
* `Settings.ofFileWith`, `Settings.loadWith`: the settings of a file and of a run, with a loader;
* `Settings.ofFile`, `Settings.load`: the same with the loader of this library.
-/

namespace DumpSummary.Settings

/-! ## Loaders -/

/-- Why the bytes of a file have no value. -/
inductive ContentFault
  /-- They are no text. -/
  | undecodable (f : Text.DecodeFault)
  /-- The text is no document, or the document has no value. -/
  | malformed (f : Yaml.Fault)
  deriving DecidableEq, Repr

/-- The value that the bytes of a file stand for. -/
abbrev Loader := Bytes → Except ContentFault Yaml.Datum

/-- How deep a document is looked into: sections, fields, and whether a field is empty. -/
def depth : Nat := 3

/-- The loader of this library. -/
def Loader.own : Loader := fun content =>
  match Text.decodePieces content with
  | .error f => .error (.undecodable f)
  | .ok cs => (Yaml.load depth (Text.unifyLines cs)).mapError .malformed

/-! ## Settings -/

/-- Why there are no settings. -/
inductive LoadFault
  /-- There is no such file. -/
  | notFound (p : Path)
  /-- The file cannot be read. -/
  | unreadable (f : FileFault)
  /-- The file is no text. -/
  | undecodable (f : Text.DecodeFault)
  /-- The text is no document. -/
  | malformed (f : Yaml.Fault)
  /-- The document says nothing. -/
  | empty (p : Path)
  /-- The document gives no settings. -/
  | invalid (p : Path) (errors : List FieldError)
  deriving DecidableEq, Repr

/-- How many faults there are, as the headline of their report says it. -/
def countText (errors : List FieldError) : String :=
  Nat.repr errors.length ++ (if errors.length == 1 then " validation error" else " validation errors")
    ++ " for AnalyzerConfig"

/-- The first line of the message about a file that gives no settings, without the faults. -/
def invalidText (p : Path) : String := "Invalid configuration in " ++ p.text

/-- The first line of the message. -/
def LoadFault.headline : LoadFault → String
  | .notFound p => "Config file not found: " ++ p.text
  | .unreadable f => f.message
  | .undecodable f => f.message
  | .malformed f => f.headline
  | .empty p => "Empty configuration file: " ++ p.text
  | .invalid p errors => invalidText p ++ ": " ++ countText errors

/-- The fault of a file whose bytes have no value. -/
def ContentFault.toLoadFault : ContentFault → LoadFault
  | .undecodable f => .undecodable f
  | .malformed f => .malformed f

/-- The settings of a file, its bytes read by a loader. -/
def ofFileWith (loader : Loader) (files : FileTree) (path : String) : Except LoadFault Settings :=
  let p := Path.ofText path
  if !files.holds p then .error (.notFound p)
  else match files.read p with
    | .error f => .error (.unreadable f)
    | .ok content =>
      match loader content with
      | .error f => .error f.toLoadFault
      | .ok d => if !d.isTruthy then .error (.empty p) else (ofDatum d).mapError (.invalid p)

/-- The settings of a file. -/
def ofFile : FileTree → String → Except LoadFault Settings := ofFileWith .own

/-- The usual place of the settings. -/
def usualPlace : String := "config/sqldump-analyzer.yaml"

/-- The name of the variable of the environment that names a file. -/
def variableName : String := "SQLDUMP_ANALYZER_CONFIG"

/-- The file that settings come from: the named one, else that of the environment, else the one in the usual place.
An empty name names nothing. -/
def source? (files : FileTree) (environment path : Option String) : Option String :=
  let named (s : Option String) : Option String := s.filter (· ≠ "")
  named path <|> named environment <|> (if files.holds (Path.ofText usualPlace) then some usualPlace else none)

/-- The settings of a run, files read by a loader. -/
def loadWith (loader : Loader) (files : FileTree) (environment path : Option String) : Except LoadFault Settings :=
  match source? files environment path with
  | some s => ofFileWith loader files s
  | none => .ok default

/-- The settings of a run. -/
def load : FileTree → Option String → Option String → Except LoadFault Settings := loadWith .own

end DumpSummary.Settings
