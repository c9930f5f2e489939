import DumpSummary.Dialect.Pattern

/-!
# Detecting the dialect of a dump

A dump shows its dialect by words and signs that occur in one system's dumps and seldom in others'.  The dialect
with the most of its signs wins, if it has at least two; without such evidence the dump counts as PostgreSQL.
A name in backticks decides for MySQL unless another system has two signs of its own.

## Contents

* `oracleSigns`, `sqlServerSigns`, `mysqlSigns`: the signs;
* `score`: how many signs occur;
* `detect`: the name of the dialect.
-/

namespace DumpSummary.Dialect

/-- A word or sign, letter by letter. -/
def letters (s : String) : Pattern :=
  s.toList.map fun c => .one (.only c)

/-- A word of its own. -/
def wholeWord (s : String) : Pattern :=
  .wordEdge :: letters s ++ [.wordEdge]

/-- A word that begins at a word edge and is followed by a sign, blanks between. -/
def wordThen (s : String) (sign : Char) : Pattern :=
  .wordEdge :: letters s ++ [.many .blank, .one (.only sign)]

/-- Two words with blanks between. -/
def twoWords (s t : String) : Pattern :=
  .wordEdge :: letters s ++ .oneOrMore .blank :: letters t ++ [.wordEdge]

/-- A line that holds nothing but a word or sign. -/
def aloneOnLine (s : String) : Pattern :=
  .lineStart :: .many .blank :: letters s ++ [.many .blank, .lineEnd]

/-- The signs of an Oracle dump. -/
def oracleSigns : List Pattern :=
  [wholeWord "VARCHAR2", wordThen "NUMBER" '(', wholeWord "SYSDATE", twoWords "FROM" "DUAL", wordThen "NVL" '(',
    .oneOrMore .word :: letters ".NEXTVAL" ++ [.wordEdge], wholeWord "PLS_INTEGER", aloneOnLine "/"]

/-- The signs of a SQL Server dump. -/
def sqlServerSigns : List Pattern :=
  [wordThen "IDENTITY" '(', aloneOnLine "GO", [.one (.only '['), .oneOrMore .word, .one (.only ']')],
    wholeWord "NVARCHAR", wholeWord "DATETIME2", twoWords "SET" "IDENTITY_INSERT"]

/-- The signs of a MySQL dump. -/
def mysqlSigns : List Pattern :=
  [wholeWord "AUTO_INCREMENT", [.one (.only '\x60'), .oneOrMore .word, .one (.only '\x60')], wordThen "ENGINE" '=',
    wholeWord "TINYINT", wholeWord "MEDIUMINT",
    .lineStart :: .many .blank :: letters "USE" ++ [.oneOrMore .blank, .one (.wordOr '\x60')],
    twoWords "LOCK" "TABLES", wordThen "CHARSET" '=']

/-- A name in backticks, on one line. -/
def backtickName : Pattern :=
  [.one (.only '\x60'), .oneOrMore (.insideOf '\x60'), .one (.only '\x60')]

/-- How many of the signs occur in a text. -/
def score (signs : List Pattern) (cs : List Char) : Nat :=
  signs.countP (occursIn · cs)

/-- The dialect of a dump. -/
def detect (text : String) : String :=
  let cs := text.toList
  let oracle := score oracleSigns cs
  let sqlServer := score sqlServerSigns cs
  let mysql := score mysqlSigns cs
  if max sqlServer oracle < 2 && occursIn backtickName cs then "mysql"
  else
    let best := max mysql (max sqlServer oracle)
    if best < 2 then "postgres"
    else if mysql == best then "mysql"
    else if sqlServer == best then "tsql"
    else "oracle"

end DumpSummary.Dialect
