/-!
# Why a document cannot be read

A document is refused in one of several stages of reading, and with a headline that says what was being read or,
where there is nothing to say about that, what is wrong.

## Contents

* `Yaml.FaultKind`, `Yaml.Fault`: the stage and the headline.
-/

namespace DumpSummary.Yaml

/-- What refuses a document. -/
inductive FaultKind
  /-- It holds a character that no document may hold. -/
  | character
  /-- Its characters form no tokens. -/
  | token
  /-- Its tokens form no document. -/
  | document
  /-- Its nodes cannot be put together. -/
  | node
  /-- A node has no value. -/
  | construction
  /-- A scalar is not what its tag says. -/
  | value
  /-- A character code, or the weight of a part to the base sixty, is too large for a number of the machine. -/
  | overflow
  /-- A scalar is not one of the words that its tag allows. -/
  | word
  /-- A number has no digits at all. -/
  | empty
  /-- A scalar has not the form that its tag asks for. -/
  | form
  deriving DecidableEq, Repr

/-- Why a document is refused. -/
structure Fault where
  /-- The stage that refuses it. -/
  kind : FaultKind
  /-- The headline of the message. -/
  headline : String
  deriving DecidableEq, Repr

end DumpSummary.Yaml
