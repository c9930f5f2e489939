import DumpSummary.Dialect.Detect
import DumpSummary.Dump.File
import DumpSummary.Json.Reader
import DumpSummary.Main
import DumpSummary.Proofs.ColumnType.Levels
import DumpSummary.Proofs.ColumnType.Rendered
import DumpSummary.Proofs.CommandLine.Agreement
import DumpSummary.Proofs.CommandLine.Delivery
import DumpSummary.Proofs.CommandLine.LineEnds
import DumpSummary.Proofs.Dialect.Fragments
import DumpSummary.Proofs.Dialect.LetterCase
import DumpSummary.Proofs.Dump.Concatenation
import DumpSummary.Proofs.Dump.DigitSizes
import DumpSummary.Proofs.Dump.Isolation
import DumpSummary.Proofs.Dump.Members
import DumpSummary.Proofs.Dump.Strictness
import DumpSummary.Proofs.Record.Normal
import DumpSummary.Proofs.Record.Short
import DumpSummary.Proofs.Reference.Grammar
import DumpSummary.Proofs.Script.Bracket
import DumpSummary.Proofs.Script.Dialects
import DumpSummary.Proofs.Script.Trailing
import DumpSummary.Proofs.Settings.Accepted
import DumpSummary.Proofs.Settings.Faults
import DumpSummary.Proofs.Summary.Dictionaries
import DumpSummary.Proofs.Summary.Growth
import DumpSummary.Proofs.Summary.History
import DumpSummary.Proofs.Summary.Notices
import DumpSummary.Proofs.Summary.Reorder
import DumpSummary.Proofs.Summary.Report
import DumpSummary.Summary.Fold
import DumpSummary.Summary.Report
