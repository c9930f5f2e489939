import DumpSummary.Dump.Read
import DumpSummary.Proofs.Summary.Step

/-!
# The records of a fragment

A record gets the lines of its statement as one more field, behind its own.  No reader of records looks at that field,
so the lines change nothing of what a record does to a summary.

## Contents

* `field_withLines`, `after_withLines`: the lines do not matter to a summary;
* `parse_ofDialect`, `fragmentRecords_of_single`: the record of a fragment that is one statement.
-/

namespace DumpSummary.Dump

open Script

/-- The lines hide no other field. -/
theorem field_withLines (l : LineRange) (v : Value) (key : String) (h : key ≠ "loc") :
    (withLines l v).field key = v.field key := by
  cases v with
  | record fields =>
    show ((fields ++ [("loc", linesValue l)]).lookup key).getD .null = (fields.lookup key).getD .null
    have hloc : List.lookup key [("loc", linesValue l)] = none := by
      rw [List.lookup_cons, beq_false_of_ne h]
      rfl
    rw [List.lookup_append, hloc, Option.or_none]
  | _ => rfl

/-- **The lines of a record** do not change what it does to a summary. -/
theorem after_withLines (l : LineRange) (v : Value) (s : Summary) : s.after (withLines l v) = s.after v := by
  have htype := field_withLines l v "type" (by decide)
  have hdb := field_withLines l v "db" (by decide)
  have hkeyword := field_withLines l v "keyword" (by decide)
  have htable := field_withLines l v "table" (by decide)
  have hcolumns := field_withLines l v "create_definitions" (by decide)
  have hvalues := field_withLines l v "values" (by decide)
  have hused : usedDatabase? (withLines l v) = usedDatabase? v := by
    unfold usedDatabase?
    rw [htype, hdb]
  have hcreated : createdTable? (withLines l v) = createdTable? v := by
    unfold createdTable?
    rw [htype, hkeyword, htable]
  have hfilled : filledTable? (withLines l v) = filledTable? v := by
    unfold filledTable?
    rw [htype, htable]
  unfold Summary.after
  rw [hused, hcreated, hfilled]
  simp only [createdColumns, filledRows, hcolumns, hvalues]

/-- In the reading of a dialect a text is parsed in the dialect. -/
@[simp] theorem parse_ofDialect (d : Dialect) : (Reading.ofDialect d).parse = Sql.parse d := rfl

/-- A fragment that is one statement has one record, in strict and in lenient reading. -/
theorem fragmentRecords_of_single {r : Reading} {f : Fragment} {st : Sql.Statement} {v : Value}
    (hparse : r.parse f.text = .ok [st]) (hconvert : r.convert st = .ok v) (strict : Bool) :
    r.fragmentRecords strict f = .ok [withLines f.lines v] := by
  unfold Reading.fragmentRecords
  rw [hparse]
  dsimp only
  unfold Reading.convertAll
  rw [hconvert]
  rfl

/-- The summary of a list of records is reached record by record. -/
theorem summarize_list (vs : List Value) : summarize (.list vs) = vs.foldl Summary.after .empty :=
  Summary.run_fst .empty 0 vs

end DumpSummary.Dump
