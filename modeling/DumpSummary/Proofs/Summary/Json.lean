import DumpSummary.Proofs.Json.Spacing
import DumpSummary.Proofs.Value.Short
import DumpSummary.Summary.Basic

/-!
# The JSON text of a summary

A summary as data is exact: its records have their names once each, and its numbers are whole.  So its text can be
read back, whatever characters the names hold and whatever the indentation.  There is a text but for two limits of the
machine: an indentation is an index, and a whole number has at most 4300 digits.

## Contents

* `exact_column`, `exact_table`, `exact_summary`: a summary as data;
* `toNat_lt_of_mem_toJson`, `read?_toJson`, `newline_notMem_toJson`: its text;
* `toValue_eq`, `Summary.Fits`, `Summary.json_cases`: what there is to write, and what can be written;
* `Summary.json_faithful`: **when the text of a summary is written, and that it is ASCII, is read back as the summary,
  and has an indentation that adds blanks only.**
-/

namespace DumpSummary

open Json (Exact unspaced)

/-- A column as data is exact. -/
theorem exact_column (c : Column) : Exact c.toValue := by
  refine .record (by simp) fun f hf => ?_
  rcases List.mem_pair.mp hf with rfl | rfl
  · exact .text c.name
  · exact .text c.type

/-- A table as data is exact. -/
theorem exact_table (t : Table) : Exact t.toValue := by
  refine .record (by simp) ?_
  simp only [List.forall_mem_cons, List.not_mem_nil, false_imp_iff, implies_true, and_true]
  refine ⟨.text t.name, .list fun v hv => ?_, .int t.rows⟩
  obtain ⟨c, -, rfl⟩ := List.mem_map.mp hv
  exact exact_column c

/-- **A summary as data** is exact. -/
theorem exact_summary (s : Summary) : Exact s.toValue := by
  refine .record (by simp) ?_
  simp only [List.forall_mem_cons, List.not_mem_nil, false_imp_iff, implies_true, and_true]
  refine ⟨Json.exact_ofText? s.database, .int s.totalTables, .list fun v hv => ?_⟩
  obtain ⟨t, -, rfl⟩ := List.mem_map.mp hv
  exact exact_table t

/-- No indentation and that of zero mean one line. -/
theorem ofIndent_eq_line {indent : Option Int} (h : indent = none ∨ indent = some 0) :
    Json.Layout.ofIndent indent = .line := by
  rcases h with rfl | rfl <;> rfl

/-! ## Texts -/

section Text

variable (s : Summary) (indent : Option Int)

/-- A text is ASCII, whatever the names hold. -/
theorem toNat_lt_of_mem_toJson {c : Char} (h : c ∈ (s.toJson indent).toList) : c.toNat < 128 := by
  rcases Json.mayStand_of_mem_write _ (exact_summary s) h with hprints | ⟨rfl, -⟩
  · exact Nat.lt_trans hprints.2 (by decide)
  · decide

/-- A text is read back as the summary. -/
theorem read?_toJson : Json.read? (s.toJson indent) = some s.toValue := by
  have hread := Json.read?_write (.ofIndent indent) (exact_summary s) [] (by simp)
  rwa [String.ofList_nil, String.append_empty] at hread

/-- A text without indentation is one line. -/
theorem newline_notMem_toJson (h : indent = none ∨ indent = some 0) : '\n' ∉ (s.toJson indent).toList := by
  intro hbreak
  rcases Json.mayStand_of_mem_write _ (exact_summary s) hbreak with hprints | ⟨-, hlines⟩
  · exact absurd hprints (by decide)
  · exact hlines (ofIndent_eq_line h)

end Text

/-! ## What can be written -/

/-- **What a summary is as data.** -/
theorem toValue_eq (s : Summary) : s.toValue = .record [
    ("databaseName", match s.database with
      | none => .null
      | some name => .text name),
    ("totalTables", .int s.tables.length),
    ("tables", .list (s.tables.map fun t => .record [
      ("tableName", .text t.name),
      ("columns", .list (t.columns.map fun c => .record [("columnName", .text c.name), ("dataType", .text c.type)])),
      ("rowCount", .int t.rows)]))] := by
  cases s with
  | mk database tables => cases database <;> rfl

/-- No number of a summary has too many digits to be written. -/
structure Summary.Fits (s : Summary) : Prop where
  /-- The number of tables has not. -/
  tables : (Nat.toDigits 10 s.tables.length).length ≤ 4300
  /-- No number of rows has, with or without a sign. -/
  rows : ∀ t ∈ s.tables, (Nat.toDigits 10 t.rows.natAbs).length ≤ 4300

theorem isShort_toValue_iff (s : Summary) : s.toValue.isShort = true ↔ s.Fits := by
  have hcolumn : ∀ c : Column, c.toValue.isShort = true := by
    intro c
    simp [Column.toValue]
  have htable : ∀ t : Table, t.toValue.isShort = true ↔ (Nat.toDigits 10 t.rows.natAbs).length ≤ Text.maxDigits := by
    intro t
    simp [Table.toValue, hcolumn]
  have hboth : s.toValue.isShort = true ↔
      (Nat.toDigits 10 s.tables.length).length ≤ Text.maxDigits ∧
        ∀ t ∈ s.tables, (Nat.toDigits 10 t.rows.natAbs).length ≤ Text.maxDigits := by
    simp [Summary.toValue, Summary.totalTables, htable]
  have hlimit : Text.maxDigits = 4300 := rfl
  rw [hboth, hlimit]
  exact ⟨fun h => ⟨h.1, h.2⟩, fun h => ⟨h.tables, h.rows⟩⟩

/-- An indentation that is an index of the machine, or none. -/
theorem isIndex_iff {indent : Option Int} :
    Json.isIndex indent = true ↔ ∀ n, indent = some n → -9223372036854775808 ≤ n ∧ n ≤ 9223372036854775807 := by
  cases indent <;> simp [Json.isIndex]

/-- **What becomes of a summary**: its indentation is refused, or else its numbers are, or else it is written. -/
theorem Summary.json_cases (s : Summary) (indent : Option Int) :
    Json.isIndex indent = false ∧ s.json indent = .error .indentation ∨
      Json.isIndex indent = true ∧ ¬ s.Fits ∧ s.json indent = .error .digits ∨
      Json.isIndex indent = true ∧ s.Fits ∧ s.json indent = .ok (s.toJson indent) := by
  unfold Summary.json Json.dump
  cases hindex : Json.isIndex indent with
  | false => exact .inl ⟨rfl, rfl⟩
  | true =>
    by_cases hfits : s.Fits
    · have hshort := (isShort_toValue_iff s).mpr hfits
      rw [hshort]
      exact .inr (.inr ⟨rfl, hfits, rfl⟩)
    · have hlong : s.toValue.isShort = false := by
        rw [← Bool.not_eq_true, isShort_toValue_iff]
        exact hfits
      rw [hlong]
      exact .inr (.inl ⟨rfl, hfits, rfl⟩)

/-- A text that is written is the text of the summary. -/
theorem Summary.eq_toJson_of_json {s : Summary} {indent : Option Int} {text : String} (h : s.json indent = .ok text) :
    text = s.toJson indent := by
  rcases s.json_cases indent with ⟨-, hjson⟩ | ⟨-, -, hjson⟩ | ⟨-, -, hjson⟩
  · rw [hjson] at h
    cases h
  · rw [hjson] at h
    cases h
  · exact Except.ok.inj (h.symm.trans hjson)

/-- **The text of a summary**, under every indentation.  It is not written exactly if the indentation is no index of the
machine, and else exactly if a number has too many digits.  A text that is written is ASCII, it is read back as the
summary, it differs from the text under another indentation only in blanks outside of string literals, and without
indentation it is one line. -/
theorem Summary.json_faithful (s : Summary) (indent : Option Int) :
    (s.json indent = .error .indentation ↔ ¬ ∀ n, indent = some n → -9223372036854775808 ≤ n ∧ n ≤ 9223372036854775807) ∧
    (s.json indent = .error .digits ↔ (∀ n, indent = some n → -9223372036854775808 ≤ n ∧ n ≤ 9223372036854775807) ∧ ¬ s.Fits) ∧
    ((∃ text, s.json indent = .ok text) ↔ (∀ n, indent = some n → -9223372036854775808 ≤ n ∧ n ≤ 9223372036854775807) ∧ s.Fits) ∧
    ∀ text, s.json indent = .ok text →
      (∀ c ∈ text.toList, c.toNat < 128) ∧
      Json.read? text = some (.record [
        ("databaseName", match s.database with
          | none => .null
          | some name => .text name),
        ("totalTables", .int s.tables.length),
        ("tables", .list (s.tables.map fun t => .record [
          ("tableName", .text t.name),
          ("columns",
            .list (t.columns.map fun c => .record [("columnName", .text c.name), ("dataType", .text c.type)])),
          ("rowCount", .int t.rows)]))]) ∧
      (∀ other text', s.json other = .ok text' → unspaced false text.toList = unspaced false text'.toList) ∧
      (indent = none ∨ indent = some 0 → '\n' ∉ text.toList) := by
  rw [← isIndex_iff]
  refine ⟨?indentation, ?digits, ?written, fun text h => ?_⟩
  case indentation => rcases s.json_cases indent with ⟨hi, h⟩ | ⟨hi, hf, h⟩ | ⟨hi, hf, h⟩ <;> simp [hi, h]
  case digits =>
    rcases s.json_cases indent with ⟨hi, h⟩ | ⟨hi, hf, h⟩ | ⟨hi, hf, h⟩
    · simp [hi, h]
    · simp [hi, hf, h]
    · simp [hi, hf, h]
  case written =>
    rcases s.json_cases indent with ⟨hi, h⟩ | ⟨hi, hf, h⟩ | ⟨hi, hf, h⟩
    · simp [hi, h]
    · simp [hi, hf, h]
    · simp [hi, hf, h]
  obtain rfl := Summary.eq_toJson_of_json h
  refine ⟨fun c hc => toNat_lt_of_mem_toJson s indent hc, ?read, fun other text' h' => ?spacing,
    newline_notMem_toJson s indent⟩
  case read => rw [read?_toJson, toValue_eq]
  case spacing =>
    rw [Summary.eq_toJson_of_json h']
    exact Json.unspaced_write _ _ (exact_summary s)

/-- The number that so many ones write. -/
def ones : Nat → Nat
  | 0 => 0
  | k + 1 => 10 * ones k + 1

theorem length_toDigits_ones (k : Nat) : (Nat.toDigits 10 (ones (k + 1))).length = k + 1 := by
  induction k with
  | zero => rfl
  | succ k ih =>
    have hpos : 0 < ones (k + 1) := Nat.succ_pos _
    rw [ones, ← Nat.toDigits_append_toDigits (by decide) hpos (by decide), List.length_append, ih]
    rfl

/-- A number of rows of too many ones is not written. -/
theorem Summary.json_ones {k : Nat} (h : 4300 ≤ k) :
    Summary.json ⟨none, [⟨"t", [], .ofNat (ones (k + 1))⟩]⟩ none = .error .digits := by
  have hlong : ¬ Summary.Fits ⟨none, [⟨"t", [], .ofNat (ones (k + 1))⟩]⟩ := by
    intro hfits
    have hrows : (Nat.toDigits 10 (ones (k + 1))).length ≤ 4300 := hfits.rows _ List.mem_cons_self
    rw [length_toDigits_ones] at hrows
    omega
  rcases Summary.json_cases ⟨none, [⟨"t", [], .ofNat (ones (k + 1))⟩]⟩ none with
    ⟨hindex, -⟩ | ⟨-, -, hjson⟩ | ⟨-, hfits, -⟩
  · cases hindex
  · exact hjson
  · exact absurd hfits hlong

/-- An indentation just below the least index, which would mean lines without blanks before them, and a number of rows
of one digit too many are refused. -/
theorem Summary.json_beyond_limits :
    Summary.json ⟨none, []⟩ (some (-9223372036854775809)) = .error .indentation ∧
    Summary.json ⟨none, [⟨"t", [], .ofNat (ones 4301)⟩]⟩ none = .error .digits :=
  ⟨rfl, Summary.json_ones (Nat.le_refl 4300)⟩

end DumpSummary
