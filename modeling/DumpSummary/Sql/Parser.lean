import DumpSummary.Sql.Grammar.Statement

/-!
# Reading the text of statements

The text is read as tokens, cut at semicolons, and each piece is read as a statement.  A piece without tokens is no
statement.

## Contents

* `Grammar.rules`: the grammar of a level;
* `parsePiece`: the tokens of a statement as a statement;
* `parse`: a text as statements.
-/

namespace DumpSummary.Sql

namespace Grammar

/-- The grammar of a level over the grammar of the level below. -/
def Rules.next (g : Rules) : Rules where
  expression := expressionOf g
  condition := conditionOf g
  comparison := comparisonOf g
  operand := operandOf g
  factor := factorOf g
  query := queryOf g
  type := dataType g

/-- The grammar of a level. -/
def rules : Nat → Rules
  | 0 => .stuck
  | n + 1 => (rules n).next

end Grammar

/-- The tokens of a piece as a statement; all tokens have to belong to it. -/
def parsePiece (d : Dialect) (tokens : List Token) : Except Rejection (Option Statement) :=
  match (Grammar.statement (Grammar.rules (tokens.length + 1))) d tokens with
  | .ok (s, []) => .ok s
  | .ok (_, _ :: _) => .error .malformed
  | .error e => .error e

/-- The pieces between the semicolons of a list of tokens. -/
def pieces (tokens : List Token) : List (List Token) :=
  match tokens with
  | [] => [[]]
  | t :: ts =>
    match pieces ts with
    | [] => [[t]]
    | p :: ps => if t = .sign ";" then [] :: p :: ps else (t :: p) :: ps

/-- The statements of a text. -/
def parse (d : Dialect) (text : String) : Except Rejection (List Statement) :=
  match scan? d text with
  | none => .error .unterminated
  | some tokens => do
    let found ← (pieces tokens).mapM (parsePiece d)
    return found.filterMap id

end DumpSummary.Sql
