import DumpSummary.Value.Basic
import DumpSummary.Dialect.Basic

/-!
# Settings

What a user can configure: how a dump is read, how its summary is written, and what is logged.

## Contents

* `OutputFormat`, `LogLevel`: the values that have a fixed list;
* `ReadingSettings`, `OutputSettings`, `LogSettings`, `Settings`: the settings;
* `Settings.default`: what holds where nothing is configured;
* `Settings.toValue`: the settings as data.
-/

namespace DumpSummary

/-- How a summary is written. -/
inductive OutputFormat
  /-- As JSON. -/
  | json
  /-- As a Markdown report. -/
  | markdown
  deriving DecidableEq, Repr

namespace OutputFormat

/-- All formats. -/
def all : List OutputFormat := [.json, .markdown]

/-- The name of a format. -/
def name : OutputFormat → String
  | .json => "json"
  | .markdown => "markdown"

/-- The format of a name. -/
def ofName? (s : String) : Option OutputFormat := all.find? (·.name == s)

end OutputFormat

/-- The least weight of a message that is logged. -/
inductive LogLevel
  /-- Everything. -/
  | debug
  /-- What happens. -/
  | info
  /-- What may be wrong. -/
  | warning
  /-- What is wrong. -/
  | error
  deriving DecidableEq, Repr

namespace LogLevel

/-- All levels. -/
def all : List LogLevel := [.debug, .info, .warning, .error]

/-- The name of a level. -/
def name : LogLevel → String
  | .debug => "DEBUG"
  | .info => "INFO"
  | .warning => "WARNING"
  | .error => "ERROR"

/-- The level of a name. -/
def ofName? (s : String) : Option LogLevel := all.find? (·.name == s)

end LogLevel

/-- How a dump is read. -/
structure ReadingSettings where
  /-- The name of the dialect. -/
  dialect : String
  /-- Whether the first statement that cannot be read ends the reading. -/
  strict : Bool
  /-- The name of the encoding. -/
  encoding : String
  deriving DecidableEq, Repr

/-- How a summary is written. -/
structure OutputSettings where
  /-- The format. -/
  format : OutputFormat
  /-- The indentation of JSON. -/
  indent : Nat
  deriving DecidableEq, Repr

/-- What is logged. -/
structure LogSettings where
  /-- The least weight. -/
  level : LogLevel
  /-- The form of a line. -/
  format : String
  deriving DecidableEq, Repr

/-- All settings. -/
structure Settings where
  /-- How a dump is read. -/
  reading : ReadingSettings
  /-- How its summary is written. -/
  output : OutputSettings
  /-- What is logged. -/
  log : LogSettings
  deriving DecidableEq, Repr

namespace Settings

/-- The greatest indentation. -/
def maxIndent : Nat := 8

/-- What holds where nothing is configured. -/
def default : Settings :=
  ⟨⟨"auto", false, "utf-8"⟩, ⟨.json, 2⟩, ⟨.warning, "%(asctime)s %(levelname)s %(name)s: %(message)s"⟩⟩

/-- The settings as data. -/
def toValue (s : Settings) : Value :=
  .record [
    ("parser", .record [("dialect", .text s.reading.dialect), ("strict", .bool s.reading.strict),
      ("encoding", .text s.reading.encoding)]),
    ("output", .record [("format", .text s.output.format.name), ("indent", .int s.output.indent)]),
    ("logging", .record [("level", .text s.log.level.name), ("format", .text s.log.format)])]

end Settings
end DumpSummary
