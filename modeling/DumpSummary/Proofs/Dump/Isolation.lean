import DumpSummary.Proofs.Dump.Reading
import DumpSummary.Proofs.Script.Resplit

/-!
# What cannot be read has no influence

In lenient reading a fragment that cannot be read becomes a record that no summary takes notice of, and the lines of a
record do not matter to a summary either.  So the summary of a dump is that of the texts that can be read, put together
again: splitting finds exactly these texts in them.  Where a statement that can be read has no record, both dumps fail
with its fault.

## Contents

* `Reading.accepts`, `Reading.acceptedTexts`: what can be read of a dump;
* `after_unparsed`: the record of a text that cannot be read;
* `Reading.summaryOf`, `Reading.summaryFrom`: the summary after some statements, after some fragments;
* `summaryFrom_filter`, `summaryFrom_congr`: what it depends on;
* `Reading.cleaned`, `map_text_split_cleaned`: what is left of a dump;
* `summarizeDump_isolated`: **what cannot be read has no influence.**
-/

namespace DumpSummary.Dump

open Script

/-- The fragment can be read. -/
def Reading.accepts (r : Reading) (f : Fragment) : Bool := (r.parse f.text).isOk

/-- The texts of the statements of a dump that can be read, in the order of the dump. -/
def Reading.acceptedTexts (r : Reading) (dialect : Option String) (dump : String) : List String :=
  ((split dialect dump).filter r.accepts).map Fragment.text

/-- **The record of a text that cannot be read** changes no summary. -/
theorem after_unparsed (f : Fragment) (s : Summary) : s.after (unparsed f) = s := by
  unfold unparsed
  rw [after_withLines]
  exact Summary.after_of_none rfl rfl rfl s

variable (r : Reading)

/-! ## Summaries of fragments -/

/-- The summary after the records of some statements, from a summary. -/
def Reading.summaryOf (s : Summary) (ss : List Sql.Statement) : Except Failure Summary :=
  (r.values ss).map fun vs => vs.foldl Summary.after s

/-- The summary after the records of some fragments, from a summary, in lenient reading. -/
def Reading.summaryFrom (s : Summary) (fs : List Fragment) : Except Failure Summary :=
  (r.records false fs).map fun vs => vs.foldl Summary.after s

/-- The lines of records do not matter to the summary after them. -/
theorem foldl_after_withLines (l : LineRange) (s : Summary) (vs : List Value) :
    (vs.map (withLines l)).foldl Summary.after s = vs.foldl Summary.after s := by
  rw [List.foldl_map]
  exact congrArg (fun g => vs.foldl g s) (funext fun t => funext fun v => after_withLines l v t)

/-- **One fragment more**: what can be read leads from one summary to the next, anything else is passed over. -/
theorem summaryFrom_cons (s : Summary) (f : Fragment) (fs : List Fragment) :
    r.summaryFrom s (f :: fs) =
      match r.parse f.text with
      | .ok ss => r.summaryOf s ss >>= fun t => r.summaryFrom t fs
      | .error _ => r.summaryFrom s fs := by
  unfold Reading.summaryFrom Reading.summaryOf
  rw [records_cons]
  unfold Reading.fragmentRecords
  cases r.parse f.text with
  | ok ss =>
    dsimp only
    rw [convertAll_eq]
    cases r.values ss with
    | error e => rfl
    | ok us =>
      cases r.records false fs with
      | error e => rfl
      | ok vs =>
        show Except.ok ((us.map (withLines f.lines) ++ vs).foldl Summary.after s) = _
        rw [List.foldl_append, foldl_after_withLines]
        rfl
  | error cause =>
    dsimp only
    cases r.records false fs with
    | error e => rfl
    | ok vs =>
      show Except.ok (vs.foldl Summary.after (s.after (unparsed f))) = _
      rw [after_unparsed]
      rfl

/-- **What cannot be read** may be left out. -/
theorem summaryFrom_filter (s : Summary) (fs : List Fragment) :
    r.summaryFrom s (fs.filter r.accepts) = r.summaryFrom s fs := by
  induction fs generalizing s with
  | nil => rfl
  | cons f fs ih =>
    cases hparse : r.parse f.text with
    | ok ss =>
      have haccepts : r.accepts f = true := congrArg Except.isOk hparse
      rw [List.filter_cons_of_pos haccepts, summaryFrom_cons, summaryFrom_cons, hparse]
      exact bind_congr fun t => ih t
    | error cause =>
      have haccepts : ¬ r.accepts f = true := Bool.eq_false_iff.mp (congrArg Except.isOk hparse)
      rw [List.filter_cons_of_neg haccepts, ih, summaryFrom_cons, hparse]

/-- **Only the texts** of the fragments matter. -/
theorem summaryFrom_congr (s : Summary) {fs gs : List Fragment} (h : fs.map Fragment.text = gs.map Fragment.text) :
    r.summaryFrom s fs = r.summaryFrom s gs := by
  induction fs generalizing s gs with
  | nil =>
    obtain rfl : gs = [] := List.map_eq_nil_iff.mp h.symm
    rfl
  | cons f fs ih =>
    obtain ⟨g, gs, rfl, htext, htexts⟩ := List.map_eq_cons_iff.mp h.symm
    rw [summaryFrom_cons, summaryFrom_cons, htext]
    cases r.parse f.text with
    | ok ss => exact bind_congr fun t => ih t htexts.symm
    | error cause => exact ih s htexts.symm

/-- In lenient reading under an explicit name the summary is that of the fragments. -/
theorem summarizeDump_eq_summaryFrom {dialect : Option String} (hauto : dialect ≠ some "auto") (dump : String) :
    r.summarizeDump dialect false dump = r.summaryFrom .empty (split dialect dump) := by
  unfold Reading.summarizeDump Reading.read Reading.summaryFrom effectiveDialect
  rw [if_neg hauto]
  exact congrArg (fun g => Except.map g _) (funext summarize_list)

/-! ## What is left of a dump -/

/-- A dump of the texts that can be read, with a semicolon and a line break between them. -/
def Reading.cleaned (dialect : Option String) (dump : String) : String :=
  String.intercalate ";\n" (r.acceptedTexts dialect dump)

/-- What is left of a dump is split into the texts that can be read. -/
theorem map_text_split_cleaned (dialect : Option String) (dump : String) :
    (split dialect (r.cleaned dialect dump)).map Fragment.text = r.acceptedTexts dialect dump :=
  map_text_split_intercalate "\n" (fun _ hc => isBlank_of_mem_lineBreak hc) (List.filter_sublist.map Fragment.text)

/-- In every reading, the lenient summary is that of what is left of the dump. -/
theorem summarizeDump_eq_cleaned {dialect : Option String} (hauto : dialect ≠ some "auto") (dump : String) :
    r.summarizeDump dialect false dump = r.summarizeDump dialect false (r.cleaned dialect dump) := by
  have htexts : ((split dialect dump).filter r.accepts).map Fragment.text =
      (split dialect (r.cleaned dialect dump)).map Fragment.text := (map_text_split_cleaned r dialect dump).symm
  calc r.summarizeDump dialect false dump
      = r.summaryFrom .empty (split dialect dump) := summarizeDump_eq_summaryFrom r hauto dump
    _ = r.summaryFrom .empty ((split dialect dump).filter r.accepts) :=
        (summaryFrom_filter r .empty _).symm
    _ = r.summaryFrom .empty (split dialect (r.cleaned dialect dump)) := summaryFrom_congr r .empty htexts
    _ = r.summarizeDump dialect false (r.cleaned dialect dump) := (summarizeDump_eq_summaryFrom r hauto _).symm

/-- **What cannot be read has no influence.**  Under every name but the one that leaves the choice of the dialect to
the dump, lenient reading gives for a dump what it gives for the texts that can be read, put together with semicolons
and line breaks: the same summary or the same failure.  This is so in every reading, and for the statements of every
known dialect. -/
theorem summarizeDump_isolated {dialect : Option String} (hauto : dialect ≠ some "auto") (dump : String) :
    (∀ r : Reading,
      r.summarizeDump dialect false dump = r.summarizeDump dialect false (r.cleaned dialect dump)) ∧
    ∀ d, Dialect.ofName? dialect = some d →
      summarizeDump dialect false dump =
        summarizeDump dialect false ((Reading.ofDialect d).cleaned dialect dump) := by
  refine ⟨fun r => summarizeDump_eq_cleaned r hauto dump, fun d hd => ?_⟩
  have heffective : ∀ script, Dialect.ofName? (effectiveDialect dialect script) = some d := by
    intro script
    unfold effectiveDialect
    rw [if_neg hauto]
    exact hd
  rw [summarizeDump_of_known (heffective _), summarizeDump_of_known (heffective _)]
  exact summarizeDump_eq_cleaned (Reading.ofDialect d) hauto dump

/-- A statement that cannot be read, an empty one, and comments behind and inside statements. -/
theorem summarizeDump_isolated_mart :
    some "mysql" ≠ some "auto" ∧
      summarizeDump (some "mysql") false "USE shop; -- old\nSELEC 1 1;;\nUSE/* new */mart" =
        summarizeDump (some "mysql") false "USE shop;\nUSE mart" := by
  have hauto : some "mysql" ≠ some "auto" := by decide
  have hcleaned : (Reading.ofDialect .mysql).cleaned (some "mysql") "USE shop; -- old\nSELEC 1 1;;\nUSE/* new */mart" =
      "USE shop;\nUSE mart" := by decide +kernel
  refine ⟨hauto, ?_⟩
  rw [← hcleaned]
  exact (summarizeDump_isolated hauto _).2 .mysql rfl

end DumpSummary.Dump
