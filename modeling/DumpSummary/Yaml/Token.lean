import DumpSummary.Yaml.Fault

/-!
# The tokens of a document

What the characters of a document form before they are put together to nodes: the marks of its structure, the
properties of nodes, and the scalars.

## Contents

* `Yaml.Directive`, `Yaml.Token`: the types;
* `Token.label`: how messages name a token.
-/

namespace DumpSummary.Yaml

/-- A line before a document that says how to read it. -/
inductive Directive
  /-- The version of the format. -/
  | version (major minor : Nat)
  /-- A short form for the beginning of tags. -/
  | handle (name expansion : String)
  /-- A directive without a meaning. -/
  | other
  deriving DecidableEq, Repr

/-- A token. -/
inductive Token
  /-- The beginning of everything. -/
  | streamStart
  /-- The end of everything. -/
  | streamEnd
  /-- A directive. -/
  | directive (d : Directive)
  /-- The mark before a document. -/
  | documentStart
  /-- The mark after a document. -/
  | documentEnd
  /-- The beginning of a sequence by indentation. -/
  | blockSequenceStart
  /-- The beginning of a mapping by indentation. -/
  | blockMappingStart
  /-- The end of either. -/
  | blockEnd
  /-- The beginning of a sequence in brackets. -/
  | flowSequenceStart
  /-- The end of one. -/
  | flowSequenceEnd
  /-- The beginning of a mapping in braces. -/
  | flowMappingStart
  /-- The end of one. -/
  | flowMappingEnd
  /-- A key follows. -/
  | key
  /-- A value follows. -/
  | value
  /-- An item of a sequence by indentation follows. -/
  | blockEntry
  /-- A comma between items. -/
  | flowEntry
  /-- A node that stands elsewhere. -/
  | alias (name : String)
  /-- The name of the node that follows. -/
  | anchor (name : String)
  /-- The tag of the node that follows: the short form, if there is one, and the rest. -/
  | tag (handle : Option String) (suffix : String)
  /-- A scalar, and whether it is written without quotes or marks. -/
  | scalar (text : String) (plain : Bool)
  deriving DecidableEq, Repr

/-- How messages name a token. -/
def Token.label : Token → String
  | .streamStart => "<stream start>"
  | .streamEnd => "<stream end>"
  | .directive _ => "<directive>"
  | .documentStart => "<document start>"
  | .documentEnd => "<document end>"
  | .blockSequenceStart => "<block sequence start>"
  | .blockMappingStart => "<block mapping start>"
  | .blockEnd => "<block end>"
  | .flowSequenceStart => "["
  | .flowSequenceEnd => "]"
  | .flowMappingStart => "\x7b"
  | .flowMappingEnd => "\x7d"
  | .key => "?"
  | .value => ":"
  | .blockEntry => "-"
  | .flowEntry => ","
  | .alias _ => "<alias>"
  | .anchor _ => "<anchor>"
  | .tag _ _ => "<tag>"
  | .scalar _ _ => "<scalar>"

end DumpSummary.Yaml
