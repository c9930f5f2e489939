import DumpSummary.Summary.Basic
import DumpSummary.Value.Display
import DumpSummary.Text.Blank

/-!
# The report of a summary

A summary as a Markdown document: a title with the database, the totals, and a section for each table with its
columns as a table.

## Contents

* `Report.tableSection`: the lines of one table;
* `Report.lines`: the lines of the document;
* `Summary.report`: the document.
-/

namespace DumpSummary

namespace Report

/-- Text inside a cell: a vertical bar would end the cell and is escaped. -/
def cell (s : String) : String :=
  String.ofList (s.toList.flatMap fun c => if c = '|' then ['\\', '|'] else [c])

/-- The title's database; a missing or empty name is replaced. -/
def databaseTitle : Option String → String
  | some name => if name = "" then "Unknown Database" else name
  | none => "Unknown Database"

/-- The lines of a table's section. -/
def tableSection (t : Table) : List String :=
  ("### " ++ t.name ++ " (" ++ Value.integerText t.rows ++ " rows)\n") ::
    if t.columns.isEmpty then ["_No columns declared._\n"]
    else ["| Column Name | Data Type |", "|---|---|"]
      ++ t.columns.map (fun c => "| " ++ cell c.name ++ " | " ++ cell c.type ++ " |") ++ [""]

/-- The lines of the document; some of them end in a blank line. -/
def lines (s : Summary) : List String :=
  ["# Database Analysis Report for: " ++ databaseTitle s.database ++ "\n",
    "## Summary Statistics\n",
    "- **Total Tables:** " ++ Nat.repr s.totalTables,
    "- **Total Columns:** " ++ Nat.repr s.totalColumns,
    "- **Total Records:** " ++ Value.integerText s.totalRows,
    ""]
  ++ if s.tables.isEmpty then [] else "## Table Details\n" :: s.tables.flatMap tableSection

end Report

/-- The summary as a Markdown document, which ends in one line break. -/
def Summary.report (s : Summary) : String :=
  String.ofList (Text.stripRight (String.intercalate "\n" (Report.lines s)).toList ++ ['\n'])

end DumpSummary
