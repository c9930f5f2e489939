import DumpSummary.Proofs.Summary.Reorder
import Mathlib.Data.List.ReduceOption

/-!
# What the log tells

The fold reports about a statement by one notice at most.  Which one it is depends on the statement and on the tables
that are declared before it, and the tables that are declared are those that an earlier statement creates.  So the log of
a list can be read off its history, statement by statement: a table is reported as declared again where an earlier
statement creates it too, and an insert is reported where no earlier statement creates its table, in which case its rows
are lost.

What a step can report is said once, in `Reports`; everything else follows from that by cases.

## Contents

* `Reports`, `step_reports`: what is reported about a statement, from any state;
* `step_redeclared_iff`, `step_insertIgnored_iff`, `step_of_filledTable?`: the two notices about tables;
* `Notice.level_eq`: the level of notices;
* `Notice.take_text`, `Notice.text_eq_redeclared_iff`, `Notice.text_eq_insertIgnored_iff`: notices told by their wording;
* `History.line`, `logLines_append`, `logLines_eq`: the log, line by line;
* `line_eq_redeclaration_iff`, `count_redeclaration`, `line_eq_ignoredInsert_iff`: the lines about tables;
* `logLines_truthful`: **the log tells what happened.**
-/

namespace DumpSummary

/-! ## What a step reports -/

theorem isRecord_of_field {v : Value} {key : String} (h : v.field key ≠ .null) : v.isRecord = true := by
  by_contra hno
  exact h (Value.field_of_isRecord_eq_false (by simpa using hno) key)

/-- Only a `create` record creates a table. -/
theorem type_of_createdTable? {v : Value} {n : String} (h : createdTable? v = some n) :
    v.field "type" = .text "create" := by
  unfold createdTable? at h
  split at h
  · rename_i htype _
    exact htype
  · cases h

/-- Only an `insert` record fills a table. -/
theorem type_of_filledTable? {v : Value} {n : String} (h : filledTable? v = some n) :
    v.field "type" = .text "insert" := by
  unfold filledTable? at h
  split at h
  · rename_i htype
    exact htype
  · cases h

/-- The table that is filled counts as present. -/
theorem isTruthy_of_filledTable? {v : Value} {n : String} (h : filledTable? v = some n) :
    (v.field "table").isTruthy = true := by
  have htype := type_of_filledTable? h
  simp only [filledTable?, htype] at h
  cases href : Reference.ofTable (v.field "table") with
  | named m => exact isTruthy_of_ofTable href
  | unrecognized =>
    rw [href] at h
    cases h

namespace Summary

variable {s : Summary} {index : Nat} {v : Value} {n : String}

/-- What is reported about a statement at a place, told from the tables that are declared before it. -/
inductive Reports (s : Summary) (index : Nat) (v : Value) : Option Notice → Prop
  /-- The item is no record. -/
  | notARecord : v.isRecord = false → Reports s index v (some (.notARecord index))
  /-- The record contributes nothing. -/
  | ignoredType : v.field "type" ≠ .text "use" → v.field "type" ≠ .text "create" → v.field "type" ≠ .text "insert" →
    Reports s index v (some (.ignoredType (v.field "type")))
  /-- A database is named in no known shape. -/
  | useNotRecognized : v.field "type" = .text "use" → usedDatabase? v = none →
    Reports s index v (some (.useNotRecognized (v.field "db")))
  /-- A table is created under no known name. -/
  | createWithoutName : v.field "type" = .text "create" → createdTable? v = none →
    Reports s index v (some .createWithoutName)
  /-- A table is created that is declared. -/
  | redeclared {n : String} : createdTable? v = some n → s.declares n = true →
    Reports s index v (some (.redeclared n))
  /-- Rows are inserted into a table that is not declared. -/
  | insertIgnored : v.field "type" = .text "insert" → (v.field "table").isTruthy = true →
    (∀ n, filledTable? v = some n → s.declares n = false) →
    Reports s index v (some (.insertIgnored (filledTable? v)))
  /-- Otherwise nothing is reported: no declared table is created, and rows are inserted into a declared one. -/
  | silent : (∀ n, createdTable? v = some n → s.declares n = false) →
    (v.field "type" = .text "insert" → (v.field "table").isTruthy = true →
      ∃ n, filledTable? v = some n ∧ s.declares n = true) →
    Reports s index v none

theorem reports_applyUse (ht : v.field "type" = .text "use") : Reports s index v (s.applyUse v).2 := by
  have hsilent : Reports s index v none := by
    apply Reports.silent
    · intro n hc
      exact absurd ((type_of_createdTable? hc).symm.trans ht) (by simp)
    · intro hi
      exact absurd (hi.symm.trans ht) (by simp)
  unfold applyUse
  dsimp only
  split
  · exact hsilent
  · split
    · exact hsilent
    · rename_i href
      exact .useNotRecognized ht (by simp [usedDatabase?, ht, href, Reference.name?])

theorem reports_applyCreate (ht : v.field "type" = .text "create") : Reports s index v (s.applyCreate v).2 := by
  have hinsert : v.field "type" = .text "insert" → (v.field "table").isTruthy = true →
      ∃ n, filledTable? v = some n ∧ s.declares n = true := by
    intro hi
    exact absurd (hi.symm.trans ht) (by simp)
  unfold applyCreate
  split
  · rename_i hkeyword
    have hc : createdTable? v = (Reference.ofTable (v.field "table")).name? := by simp [createdTable?, ht, hkeyword]
    split
    · rename_i habsent
      refine .silent ?_ hinsert
      intro n hn
      -- what names a table counts as present
      rw [hc] at hn
      cases href : Reference.ofTable (v.field "table") with
      | named m => simp [isTruthy_of_ofTable href] at habsent
      | unrecognized =>
        rw [href] at hn
        cases hn
    · split
      · rename_i n href
        rw [href] at hc
        by_cases hd : s.declares n = true
        · rw [if_pos hd]
          exact .redeclared hc hd
        · rw [if_neg hd]
          refine .silent ?_ hinsert
          intro m hm
          rw [hc] at hm
          obtain rfl : n = m := Option.some.inj hm
          simpa using hd
      · rename_i href
        rw [href] at hc
        exact .createWithoutName ht hc
  · rename_i hother
    refine .silent ?_ hinsert
    intro n hn
    rw [createdTable?_eq_none (.inr hother)] at hn
    cases hn

theorem reports_applyInsert (ht : v.field "type" = .text "insert") : Reports s index v (s.applyInsert v).2 := by
  have hcreate : ∀ n, createdTable? v = some n → s.declares n = false := by
    intro n hc
    exact absurd ((type_of_createdTable? hc).symm.trans ht) (by simp)
  have hf : filledTable? v = (Reference.ofTable (v.field "table")).name? := by simp [filledTable?, ht]
  unfold applyInsert
  split
  · rename_i habsent
    refine .silent hcreate ?_
    intro _ hpresent
    simp [hpresent] at habsent
  · rename_i hpresent
    have htruthy : (v.field "table").isTruthy = true := by simpa using hpresent
    split
    · rename_i n href
      rw [href] at hf
      by_cases hd : s.declares n = true
      · rw [if_pos hd]
        exact .silent hcreate fun _ _ => ⟨n, hf, hd⟩
      · rw [if_neg hd]
        have hreport : Reports s index v (some (.insertIgnored (filledTable? v))) := by
          refine .insertIgnored ht htruthy ?_
          intro m hm
          rw [hf] at hm
          obtain rfl : n = m := Option.some.inj hm
          simpa using hd
        rwa [hf] at hreport
    · rename_i href
      rw [href] at hf
      have hreport : Reports s index v (some (.insertIgnored (filledTable? v))) := by
        refine .insertIgnored ht htruthy ?_
        intro m hm
        rw [hf] at hm
        cases hm
      rwa [hf] at hreport

/-- **One statement.**  What the fold reports is what its state and the statement give reason for. -/
theorem step_reports (s : Summary) (index : Nat) (v : Value) : Reports s index v (s.step index v).2 := by
  unfold step
  split
  · unfold apply
    split
    · exact reports_applyUse ‹_›
    · exact reports_applyCreate ‹_›
    · exact reports_applyInsert ‹_›
    · rename_i huse hcreate hinsert
      exact .ignoredType huse hcreate hinsert
  · rename_i hno
    exact .notARecord (by simpa using hno)

/-- **A table is reported as declared again** exactly if the statement creates it and it is declared. -/
theorem step_redeclared_iff (index : Nat) :
    (s.step index v).2 = some (.redeclared n) ↔ createdTable? v = some n ∧ s.declares n = true := by
  have hreports := step_reports s index v
  constructor
  · intro h
    rw [h] at hreports
    cases hreports with
    | redeclared hc hd => exact ⟨hc, hd⟩
  · rintro ⟨hc, hd⟩
    have htype := type_of_createdTable? hc
    have hrecord : v.isRecord = true := isRecord_of_field (by rw [htype]; simp)
    generalize (s.step index v).2 = o at hreports
    cases hreports with
    | notARecord hno => rw [hno] at hrecord; cases hrecord
    | ignoredType _ hcreate _ => exact absurd htype hcreate
    | useNotRecognized hu => exact absurd (hu.symm.trans htype) (by simp)
    | createWithoutName _ hnone => rw [hnone] at hc; cases hc
    | redeclared hc' _ => rw [hc] at hc'; rw [Option.some.inj hc']
    | insertIgnored hi => exact absurd (hi.symm.trans htype) (by simp)
    | silent hnew _ => rw [hnew n hc] at hd; cases hd

/-- An insert into a given table counts without a report, or is reported. -/
theorem step_of_insert (htype : v.field "type" = .text "insert") (hpresent : (v.field "table").isTruthy = true) :
    ((s.step index v).2 = none ∧ ∃ n, filledTable? v = some n ∧ s.declares n = true) ∨
      ((s.step index v).2 = some (.insertIgnored (filledTable? v)) ∧
        ∀ n, filledTable? v = some n → s.declares n = false) := by
  have hrecord : v.isRecord = true := isRecord_of_field (by rw [htype]; simp)
  have hreports := step_reports s index v
  generalize (s.step index v).2 = o at hreports ⊢
  cases hreports with
  | notARecord hno => rw [hno] at hrecord; cases hrecord
  | ignoredType _ _ hinsert => exact absurd htype hinsert
  | useNotRecognized hu => exact absurd (hu.symm.trans htype) (by simp)
  | createWithoutName hc => exact absurd (hc.symm.trans htype) (by simp)
  | redeclared hc => exact absurd ((type_of_createdTable? hc).symm.trans htype) (by simp)
  | insertIgnored _ _ hundeclared => exact .inr ⟨rfl, hundeclared⟩
  | silent _ hcounted => exact .inl ⟨rfl, hcounted htype hpresent⟩

/-- **An insert is reported** exactly if a table is given and no declared one is named; then it is named as it is
given. -/
theorem step_insertIgnored_iff {o : Option String} :
    (s.step index v).2 = some (.insertIgnored o) ↔
      v.field "type" = .text "insert" ∧ (v.field "table").isTruthy = true ∧ o = filledTable? v ∧
        ∀ n, filledTable? v = some n → s.declares n = false := by
  constructor
  · intro h
    have hreports := step_reports s index v
    generalize (s.step index v).2 = notice at h hreports
    subst h
    cases hreports with
    | insertIgnored htype hpresent hundeclared => exact ⟨htype, hpresent, rfl, hundeclared⟩
  · rintro ⟨htype, hpresent, rfl, hundeclared⟩
    rcases step_of_insert htype hpresent with ⟨-, n, hf, hd⟩ | ⟨hnotice, -⟩
    · rw [hundeclared n hf] at hd
      cases hd
    · exact hnotice

/-- **An insert that counts** is not reported. -/
theorem step_of_filledTable? (hf : filledTable? v = some n) (hd : s.declares n = true) : (s.step index v).2 = none := by
  rcases step_of_insert (type_of_filledTable? hf) (isTruthy_of_filledTable? hf) with ⟨hnone, -⟩ | ⟨-, hundeclared⟩
  · exact hnone
  · rw [hundeclared n hf] at hd
    cases hd

end Summary

/-! ## The level and the wording of notices -/

namespace Notice

variable {m : Notice} {n x : String}

/-- How a text begins does not depend on what comes behind. -/
theorem take_append {a : String} {c d : Char} (h : a.toList.take 2 = [c, d]) (b : String) :
    (a ++ b).toList.take 2 = [c, d] := by
  have hlength : 2 ≤ a.toList.length := by
    have htwo := congrArg List.length h
    rw [List.length_take] at htwo
    simp only [List.length_cons, List.length_nil] at htwo
    omega
  rw [String.toList_append, List.take_append_of_le_length hlength, h]

/-- Every notice is for debugging. -/
theorem level_eq (m : Notice) : m.level = .debug := by
  cases m <;> rfl

/-- **The first two characters** tell the kinds of notices apart. -/
theorem take_text (m : Notice) : m.text.toList.take 2 = match m with
    | .nothingToAnalyze _ => ['N', 'o']
    | .notARecord _ => ['S', 'k']
    | .ignoredType _ => ['I', 'g']
    | .useNotRecognized _ => ['U', 'S']
    | .createWithoutName => ['C', 'R']
    | .redeclared _ => ['T', 'a']
    | .insertIgnored _ => ['I', 'N'] := by
  cases m with
  | nothingToAnalyze kind => exact take_append (take_append rfl kind) " input"
  | notARecord index => exact take_append (take_append rfl (Nat.repr index)) ": not a record"
  | ignoredType type => exact take_append rfl type.quoted
  | useNotRecognized target => exact take_append rfl target.quoted
  | createWithoutName => rfl
  | redeclared name => exact take_append (take_append rfl name) " re-declared; discarding previous definition"
  | insertIgnored name => exact take_append (take_append rfl _) " ignored"

/-- A table that is declared again is told by the wording. -/
theorem text_eq_redeclared_iff :
    m.text = "Table " ++ n ++ " re-declared; discarding previous definition" ↔ m = .redeclared n := by
  constructor
  · intro h
    have hbegin : m.text.toList.take 2 = ['T', 'a'] := by
      rw [h]
      exact take_append (take_append rfl n) _
    rw [take_text] at hbegin
    cases m with
    | redeclared k => exact congrArg redeclared ((String.append_right_inj _).mp ((String.append_left_inj _).mp h))
    | _ => simp at hbegin
  · rintro rfl
    rfl

/-- An insert that is reported is told by the wording, with the name that is shown. -/
theorem text_eq_insertIgnored_iff :
    m.text = "INSERT into undeclared table " ++ x ++ " ignored" ↔
      ∃ o, m = .insertIgnored o ∧ x = (Value.ofText? o).quoted := by
  constructor
  · intro h
    have hbegin : m.text.toList.take 2 = ['I', 'N'] := by
      rw [h]
      exact take_append (take_append rfl x) _
    rw [take_text] at hbegin
    cases m with
    | insertIgnored o => exact ⟨o, rfl, ((String.append_right_inj _).mp ((String.append_left_inj _).mp h)).symm⟩
    | _ => simp at hbegin
  · rintro ⟨o, rfl, rfl⟩
    rfl

end Notice

/-! ## The log, line by line -/

namespace History

variable {before vs : List Value} {v : Value} {n x : String}

/-- What is logged about a statement that comes behind others. -/
def line (before : List Value) (v : Value) : Option (LogLevel × String) :=
  ((analyze (.list before)).1.step before.length v).2.map Notice.line

/-- What is logged that a table is declared again. -/
def redeclaration (n : String) : LogLevel × String :=
  (.debug, "Table " ++ n ++ " re-declared; discarding previous definition")

/-- What is logged that an insert is ignored. -/
def ignoredInsert (x : String) : LogLevel × String := (.debug, "INSERT into undeclared table " ++ x ++ " ignored")

/-- One more statement logs one more line at most. -/
theorem logLines_append (vs : List Value) (v : Value) :
    logLines (.list (vs ++ [v])) = logLines (.list vs) ++ (line vs v).toList := by
  unfold logLines
  rw [analyze_list_append, List.map_append]
  refine congrArg ((analyze (.list vs)).2.map Notice.line ++ ·) ?_
  show (((analyze (.list vs)).1.step vs.length v).2.toList ++ []).map Notice.line = _
  rw [List.append_nil]
  unfold line
  cases ((analyze (.list vs)).1.step vs.length v).2 <;> rfl

/-- **The log** has a line at most for each statement, in the order of the statements. -/
theorem logLines_eq (vs : List Value) :
    logLines (.list vs) = (vs.mapIdx fun i v => line (vs.take i) v).reduceOption := by
  induction vs using List.reverseRecOn with
  | nil => rfl
  | append_singleton vs v ih =>
    -- what comes before a statement does not depend on what comes behind it
    have hbefore : (vs.mapIdx fun i w => line ((vs ++ [v]).take i) w) = vs.mapIdx fun i w => line (vs.take i) w := by
      refine List.ext_getElem (by simp) ?_
      intro i hi _
      have hle : i ≤ vs.length := by
        rw [List.length_mapIdx] at hi
        omega
      rw [List.getElem_mapIdx, List.getElem_mapIdx, List.take_append_of_le_length hle]
    rw [logLines_append, List.mapIdx_concat, hbefore, List.take_left, List.reduceOption_append, ih]
    cases line vs v <;> rfl

/-- A table is declared exactly if a statement creates it. -/
theorem declares_analyze_iff :
    (analyze (.list before)).1.declares n = true ↔ ∃ w ∈ before, createdTable? w = some n := by
  rw [Summary.declares_iff, show (analyze (.list before)).1 = summary before from run_empty 0 before, names_summary,
    mem_names]

/-- A table is not declared exactly if no statement creates it. -/
theorem not_declares_analyze_iff :
    (analyze (.list before)).1.declares n = false ↔ ∀ w ∈ before, createdTable? w ≠ some n := by
  rw [← Bool.not_eq_true, declares_analyze_iff]
  simp

/-- **A table is logged as declared again** where an earlier statement creates it, too. -/
theorem line_eq_redeclaration_iff :
    line before v = some (redeclaration n) ↔
      createdTable? v = some n ∧ ∃ w ∈ before, createdTable? w = some n := by
  rw [← declares_analyze_iff, ← Summary.step_redeclared_iff before.length]
  unfold line
  rw [Option.map_eq_some_iff]
  constructor
  · rintro ⟨m, hm, hline⟩
    rw [hm, Notice.text_eq_redeclared_iff.mp (Prod.mk.inj hline).2]
  · intro h
    exact ⟨_, h, rfl⟩

/-- **An insert is logged** where a table is given and no earlier statement creates the one that is named. -/
theorem line_eq_ignoredInsert_iff :
    line before v = some (ignoredInsert x) ↔
      v.field "type" = .text "insert" ∧ (v.field "table").isTruthy = true ∧
        x = (Value.ofText? (filledTable? v)).quoted ∧
        ∀ n, filledTable? v = some n → ∀ w ∈ before, createdTable? w ≠ some n := by
  simp only [← not_declares_analyze_iff]
  unfold line
  rw [Option.map_eq_some_iff]
  constructor
  · rintro ⟨m, hm, hline⟩
    obtain ⟨o, rfl, rfl⟩ := Notice.text_eq_insertIgnored_iff.mp (Prod.mk.inj hline).2
    obtain ⟨htype, hpresent, rfl, hundeclared⟩ := Summary.step_insertIgnored_iff.mp hm
    exact ⟨htype, hpresent, rfl, hundeclared⟩
  · rintro ⟨htype, hpresent, rfl, hundeclared⟩
    exact ⟨_, Summary.step_insertIgnored_iff.mpr ⟨htype, hpresent, rfl, hundeclared⟩, rfl⟩

/-- **How often a table is logged as declared again**: once for each creation but the first. -/
theorem count_redeclaration (vs : List Value) (n : String) :
    (logLines (.list vs)).count (redeclaration n) = vs.countP (creates n) - 1 := by
  induction vs using List.reverseRecOn with
  | nil => rfl
  | append_singleton vs v ih =>
    have hearlier : (∃ w ∈ vs, createdTable? w = some n) ↔ 0 < vs.countP (creates n) := by
      rw [List.countP_pos_iff]
      simp [creates]
    have hcreates : creates n v = true ↔ createdTable? v = some n := by simp [creates]
    rw [logLines_append, List.count_append, List.countP_append, ih, List.countP_singleton]
    by_cases hagain : createdTable? v = some n ∧ ∃ w ∈ vs, createdTable? w = some n
    · have hpos := hearlier.mp hagain.2
      rw [line_eq_redeclaration_iff.mpr hagain, if_pos (hcreates.mpr hagain.1), Option.toList_some, List.count_singleton_self]
      omega
    · -- another statement, or the first creation
      have hline : (line vs v).toList.count (redeclaration n) = 0 := by
        rw [List.count_eq_zero]
        intro hmem
        exact hagain (line_eq_redeclaration_iff.mp (Option.mem_toList.mp hmem))
      rw [hline, Nat.add_zero]
      by_cases hc : createdTable? v = some n
      · have hzero : vs.countP (creates n) = 0 := by
          have hfirst : ¬ 0 < vs.countP (creates n) := fun hpos => hagain ⟨hc, hearlier.mpr hpos⟩
          omega
        rw [if_pos (hcreates.mpr hc), hzero]
      · rw [if_neg (fun h => hc (hcreates.mp h)), Nat.add_zero]

/-- An insert that is logged leaves the summary as it is. -/
theorem analyze_of_ignoredInsert (h : line before v = some (ignoredInsert x)) :
    (analyze (.list (before ++ [v]))).1 = (analyze (.list before)).1 := by
  obtain ⟨htype, -, -, hundeclared⟩ := line_eq_ignoredInsert_iff.mp h
  have hu : usedDatabase? v = none := by simp [usedDatabase?, htype]
  have hc : createdTable? v = none := createdTable?_eq_none (.inl (by simp [htype]))
  rw [analyze_list_append_fst]
  show Summary.after _ v = _
  cases hf : filledTable? v with
  | none => exact Summary.after_of_none hu hc hf _
  | some n =>
    rw [Summary.after_of_filledTable? hf]
    exact Summary.addRows_of_not_declares (not_declares_analyze_iff.mpr (hundeclared n hf)) _

/-- An insert that counts is not logged, and its rows are added. -/
theorem line_of_filledTable? (hf : filledTable? v = some n) (hc : ∃ w ∈ before, createdTable? w = some n) :
    line before v = none ∧
      (analyze (.list (before ++ [v]))).1.table? n =
        ((analyze (.list before)).1.table? n).map fun t => { t with rows := t.rows + filledRows v } := by
  constructor
  · unfold line
    rw [Summary.step_of_filledTable? hf (declares_analyze_iff.mpr hc), Option.map_none]
  · rw [analyze_list_append_fst]
    show (Summary.after _ v).table? n = _
    rw [Summary.after_of_filledTable? hf, Summary.table?_addRows, if_pos rfl]

end History

open History in
/-- **The log tells what happened.**  The log of a list has a line at most for each statement, in their order, and every
line is for debugging.  That a table is declared again is logged for exactly those statements that create it behind
another one that does, so once for each creation but the first.  Of the inserts that give a table, exactly those are
logged that find none declared; they leave the summary as it is, and those that find one add their rows to it and are not
logged. -/
theorem logLines_truthful (vs : List Value) :
    logLines (.list vs) = (vs.mapIdx fun i v => line (vs.take i) v).reduceOption ∧
    (∀ l ∈ logLines (.list vs), l.1 = .debug) ∧
    (∀ n, (logLines (.list vs)).count
      (.debug, "Table " ++ n ++ " re-declared; discarding previous definition") = vs.countP (creates n) - 1) ∧
    ∀ before v,
      (∀ n, line before v = some (.debug, "Table " ++ n ++ " re-declared; discarding previous definition") ↔
        createdTable? v = some n ∧ ∃ w ∈ before, createdTable? w = some n) ∧
      (∀ x, line before v = some (.debug, "INSERT into undeclared table " ++ x ++ " ignored") ↔
        v.field "type" = .text "insert" ∧ (v.field "table").isTruthy = true ∧
          x = (Value.ofText? (filledTable? v)).quoted ∧
          ∀ n, filledTable? v = some n → ∀ w ∈ before, createdTable? w ≠ some n) ∧
      (∀ x, line before v = some (.debug, "INSERT into undeclared table " ++ x ++ " ignored") →
        (analyze (.list (before ++ [v]))).1 = (analyze (.list before)).1) ∧
      ∀ n, filledTable? v = some n → (∃ w ∈ before, createdTable? w = some n) →
        line before v = none ∧
          (analyze (.list (before ++ [v]))).1.table? n =
            ((analyze (.list before)).1.table? n).map fun t => { t with rows := t.rows + filledRows v } := by
  refine ⟨logLines_eq vs, ?_, count_redeclaration vs, ?_⟩
  · intro l hl
    obtain ⟨m, -, rfl⟩ := List.mem_map.mp hl
    exact m.level_eq
  · intro before v
    exact ⟨fun n => line_eq_redeclaration_iff, fun x => line_eq_ignoredInsert_iff,
      fun x => analyze_of_ignoredInsert, fun n => line_of_filledTable?⟩

open History in
/-- The same insert is logged before the table is created and counts behind it; the second creation is logged. -/
theorem logLines_truthful_created_again :
    let before := [insertion "a", creation "a", choice "x"]
    line [] (insertion "a") = some (.debug, "INSERT into undeclared table " ++ "'a'" ++ " ignored") ∧
      (analyze (.list [insertion "a"])).1 = (analyze (.list [])).1 ∧
      (filledTable? (insertion "a") = some "a" ∧ (∃ w ∈ before, createdTable? w = some "a") ∧
        line before (insertion "a") = none) ∧
      line before (creation "a") = some (.debug, "Table " ++ "a" ++ " re-declared; discarding previous definition") := by
  intro before
  have hfilled : filledTable? (insertion "a") = some "a" := by decide
  have hcreated : ∃ w ∈ before, createdTable? w = some "a" := ⟨creation "a", by simp [before], by decide⟩
  obtain ⟨-, -, -, hlines⟩ := logLines_truthful []
  obtain ⟨-, hignored, hlost, -⟩ := hlines [] (insertion "a")
  obtain ⟨-, -, -, hcounted⟩ := hlines before (insertion "a")
  obtain ⟨hagain, -⟩ := hlines before (creation "a")
  have hfirst : line [] (insertion "a") = some (.debug, "INSERT into undeclared table " ++ "'a'" ++ " ignored") :=
    (hignored "'a'").mpr ⟨rfl, by decide, by decide, fun _ _ _ hw => nomatch hw⟩
  exact ⟨hfirst, hlost "'a'" hfirst, ⟨hfilled, hcreated, (hcounted "a" hfilled hcreated).1⟩,
    (hagain "a").mpr ⟨by decide, hcreated⟩⟩

end DumpSummary
