import DumpSummary.Dialect.Basic

/-!
# The lexical rules of the dialects

What quotes a name or a string, which signs and phrases are one token, and which words begin a statement that is
kept as raw text.

## Contents

* `nameQuotes`, `stringQuotes`: the delimiters;
* `isMark`: the characters that end a word;
* `signs`, `phrases`: the tokens of several characters and of several words;
* `rawWords`: the words that begin a raw statement.
-/

namespace DumpSummary.Sql

/-- The delimiters of quoted names, opening and closing. -/
def nameQuotes : Dialect → List (Char × Char)
  | .mysql => [('\x60', '\x60')]
  | .sqlite => [('\x22', '\x22'), ('[', ']'), ('\x60', '\x60')]
  | .sqlServer => [('\x22', '\x22'), ('[', ']')]
  | _ => [('\x22', '\x22')]

/-- The delimiters of strings. -/
def stringQuotes : Dialect → List Char
  | .mysql => ['\x27', '\x22']
  | _ => ['\x27']

/-- The characters that are tokens alone and end a word. -/
def marks : List Char :=
  "()[]\x7b\x7d&^:,-.+;/\\*~?@%<>=|#\x27\x60\x22".toList

/-- Whether the character ends a word.  Some dialects have words that go on over certain signs. -/
def isMark (d : Dialect) (c : Char) : Bool :=
  marks.contains c && !(match d with
    | .sqlServer | .oracle => c == '@' || c == '#'
    | .mysql => c == '@'
    | _ => false)

/-- The signs of several characters, the longer ones first. -/
def signs (d : Dialect) : List String :=
  (match d with
    | .postgres => ["||/", "@>", "<@", "?&", "?|", "#-", "|/", "@@", "~~*", "!~~*", "!~~", "!~*", "!~"]
    | .oracle => ["(+)"]
    | _ => [])
  ++ ["->>", "#>>", "<=>", "<->", "||", "::", "<=", ">=", "<>", "!=", ":=", "->", "=>", "#>", "&&", "??", "~~~",
    "~~", "~*", "==", "<<", ">>", "|>"]

/-- The phrases of several words, in capitals, the longer ones first. -/
def phrases (d : Dialect) : List String :=
  (match d with
    | .mysql => ["UNLOCK TABLES", "LOCK TABLES", "UNSIGNED INTEGER", "SIGNED INTEGER"]
    | .sqlServer => ["NONCLUSTERED INDEX", "CLUSTERED INDEX", "UPDATE STATISTICS", "FOR SYSTEM_TIME"]
    | .oracle => ["ORDER SIBLINGS BY", "BULK COLLECT INTO"]
    | _ => [])
  ++ ["CHARACTER VARYING", "DOUBLE PRECISION", "DISTRIBUTE BY", "CHARACTER SET", "GROUPING SETS", "PARTITION BY",
    "CHAR VARYING", "FOREIGN KEY", "PRIMARY KEY", "CLUSTER BY", "CONNECT BY", "SIMILAR TO", "START WITH", "GROUP BY",
    "ORDER BY", "SORT BY"]

/-- The words that, at the start of a statement, keep the rest of it as raw text. -/
def rawWords (d : Dialect) : List String :=
  ["CALL", "OPTIMIZE", "PREPARE", "VACUUM", "FETCH", "RENAME"]
  ++ match d with
    | .mysql => ["LOCK TABLES", "UNLOCK TABLES", "REPLACE"]
    | .postgres => ["EXPLAIN", "EXECUTE", "SHOW", "DO", "EXEC", "LOCK", "DECLARE", "REFRESH", "REINDEX", "RESET"]
    | .sqlite => ["EXPLAIN", "EXECUTE", "SHOW", "REPLACE"]
    | .sqlServer => ["EXPLAIN", "SHOW", "GO", "PRINT", "UPDATE STATISTICS"]
    | _ => ["EXPLAIN", "EXECUTE", "SHOW"]

end DumpSummary.Sql
