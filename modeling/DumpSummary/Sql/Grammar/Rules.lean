import DumpSummary.Sql.Parse

/-!
# The nested rules of the grammar

Expressions, queries and types contain one another.  Each rule is written over a record of the rules that it may
use one level further in; the grammar of a level is made from the grammar of the level below, and a statement is
read with as many levels as it has tokens.

## Contents

* `Rules`: the rules that nest;
* `Rules.stuck`: the level below the lowest.
-/

namespace DumpSummary.Sql.Grammar

/-- The rules that nest. -/
structure Rules where
  /-- An expression, which may be given a name. -/
  expression : Parse (Option Expr)
  /-- An expression without a name. -/
  condition : Parse (Option Expr)
  /-- A comparison: what may follow a negation. -/
  comparison : Parse (Option Expr)
  /-- A sum, a product or the like. -/
  operand : Parse (Option Expr)
  /-- A factor: what may follow a sign. -/
  factor : Parse (Option Expr)
  /-- A query. -/
  query : Parse (Option Expr)
  /-- A type. -/
  type : Parse (Option DataType)

/-- The level below the lowest: no statement gets here, as each level takes a token. -/
def Rules.stuck : Rules :=
  ⟨Parse.reject, Parse.reject, Parse.reject, Parse.reject, Parse.reject, Parse.reject, Parse.reject⟩

end DumpSummary.Sql.Grammar
