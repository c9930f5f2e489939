import DumpSummary.Sql.Grammar.Type

/-!
# Functions

The names of functions are written in capitals.  Some functions have several names, one of which is written, and
the functions for the current time are written as each dialect writes them.

## Contents

* `currentTime`, `now`: the functions for the current time;
* `bareFunctions`: the functions that are called without parentheses;
* `functionCall`: a call as it is written in a dialect.
-/

namespace DumpSummary.Sql.Grammar

/-- The current time. -/
def currentTime (d : Dialect) : Expr :=
  match d with
  | .mysql => .call "currenttimestamp" ⟨"CURRENT_TIMESTAMP", false⟩ []
  | .sqlServer => .call "currenttimestamp" ⟨"GETDATE", false⟩ []
  | _ => .word "currenttimestamp" "CURRENT_TIMESTAMP"

/-- The functions that are called without parentheses, with the kind of expression that they are. -/
def bareFunctions : List (String × String) :=
  [("CURRENT_DATE", "currentdate"), ("CURRENT_TIME", "currenttime"), ("CURRENT_USER", "currentuser"),
    ("CURRENT_DATETIME", "currentdatetime")]

/-- The common names of functions that have several. -/
def functionSynonyms : List (String × String) :=
  [("IFNULL", "COALESCE"), ("NVL", "COALESCE"), ("LCASE", "LOWER"), ("UCASE", "UPPER"), ("SUBSTR", "SUBSTRING"),
    ("POW", "POWER"), ("CEILING", "CEIL"), ("CHARACTER_LENGTH", "LENGTH"), ("CHAR_LENGTH", "LENGTH"),
    ("LEN", "LENGTH"), ("EVERY", "LOGICAL_AND"), ("STDDEV_SAMP", "STDDEV_SAMP")]

/-- The names that a dialect keeps where others use the common name. -/
def ownFunctionNames : Dialect → List String
  | .oracle => ["NVL", "SUBSTR"]
  | .sqlServer => ["LEN", "CEILING"]
  | .sqlite => ["SUBSTR"]
  | .mysql => ["CHAR_LENGTH", "LENGTH"]
  | _ => []

/-- A call of a function that is known by a name in capitals. -/
def functionCall (d : Dialect) (name : String) (args : List Expr) : Expr :=
  if name = "CURRENT_TIMESTAMP" then
    if args.isEmpty then currentTime d else .call "currenttimestamp" ⟨name, false⟩ args
  else if name = "NOW" then
    match d with
    | .postgres => if args.isEmpty then currentTime d else .call "currenttimestamp" ⟨"CURRENT_TIMESTAMP", false⟩ args
    | _ => .call "anonymous" ⟨"NOW", false⟩ args
  else if name = "GETDATE" && d = .sqlServer && args.isEmpty then currentTime d
  else
    match functionSynonyms.lookup name with
    | some common =>
      if (ownFunctionNames d).contains name then .call "anonymous" ⟨name, false⟩ args
      else .call "anonymous" ⟨common, false⟩ args
    | none => .call "anonymous" ⟨name, false⟩ args

end DumpSummary.Sql.Grammar
