/-!
# SQL dialects

The dialects whose rules are at hand, and the names by which a user asks for one.  Further dialects have a name that can
be configured, but no rules here; a dump in one of them is left to a reading of its own.

## Contents

* `Dialect`: the dialects whose rules are at hand, and the common rules;
* `Dialect.ofName?`: the dialect of a name;
* `Dialect.configurable`: the names that a configuration may hold.
-/

namespace DumpSummary

/-- The dialect in whose terms a statement is read and written. -/
inductive Dialect
  /-- The rules common to all. -/
  | common
  /-- MySQL. -/
  | mysql
  /-- PostgreSQL. -/
  | postgres
  /-- SQLite. -/
  | sqlite
  /-- SQL Server. -/
  | sqlServer
  /-- Oracle. -/
  | oracle
  deriving DecidableEq, Repr, Inhabited

namespace Dialect

/-- The names that a configuration or a command line may hold. -/
def configurable : List String :=
  ["auto", "mysql", "postgres", "sqlite", "tsql", "oracle", "bigquery", "snowflake", "duckdb", "redshift", "hive",
    "spark"]

/-- The dialect of a name, in exactly that spelling, if its rules are at hand; no name and the empty one mean the common
rules. -/
def ofName? : Option String → Option Dialect
  | none => some .common
  | some name =>
    if name = "" then some .common
    else if name = "mysql" then some .mysql
    else if name = "postgres" then some .postgres
    else if name = "sqlite" then some .sqlite
    else if name = "tsql" then some .sqlServer
    else if name = "oracle" then some .oracle
    else none

end Dialect
end DumpSummary
