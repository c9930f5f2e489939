import DumpSummary.Proofs.Dump.Reading
import DumpSummary.Proofs.Script.Seam

/-!
# Dumps side by side

A dump that ends a statement and any dump behind it are read apart from each other: the records are those of the first
and then those of the second, the lines of these moved down.  This is so for every way to read the fragments that
leaves the lines of a record to the reader of the dump, as the readings of all dialects do.

## Contents

* `shiftLines`: a record with its lines moved down; `shiftLines_withLines`;
* `records_shift`: the records of fragments further down;
* `ReadsInParts`, `split_read_append`: **dumps side by side.**
-/

namespace DumpSummary.Dump

open Script Record

/-! ## Lines further down -/

/-- A line number that many lines further down. -/
def shiftLine (k : Nat) : Value → Value
  | .int n => .int (n + k)
  | v => v

/-- A range of lines that many lines further down. -/
def shiftRange (k : Nat) : Value → Value
  | .record fields => .record (fields.map fun f => (f.1, shiftLine k f.2))
  | v => v

/-- A record with its lines moved down. -/
def shiftLines (k : Nat) : Value → Value
  | .record fields => .record (fields.map fun f => if f.1 = "loc" then (f.1, shiftRange k f.2) else f)
  | v => v

theorem shiftRange_linesValue (k : Nat) (l : LineRange) : shiftRange k (linesValue l) = linesValue (l.shift k) := by
  simp [shiftRange, linesValue, shiftLine, LineRange.shift]

/-- **The lines of a record** that has none of its own are those it was given. -/
theorem shiftLines_withLines {v : Value} (hv : Lacks "loc" v) (k : Nat) (l : LineRange) :
    shiftLines k (withLines l v) = withLines (l.shift k) v := by
  cases v with
  | record fields =>
    have hown : fields.map (fun f => if f.1 = "loc" then (f.1, shiftRange k f.2) else f) = fields := by
      refine (List.map_congr_left fun f hf => ?_).trans (List.map_id fields)
      exact if_neg (hv f hf)
    unfold withLines shiftLines
    dsimp only
    rw [List.map_append, hown]
    show Value.record (fields ++ [("loc", shiftRange k (linesValue l))]) = _
    rw [shiftRange_linesValue]
  | _ => rfl

theorem shiftLines_unparsed (k : Nat) (f : Fragment) : shiftLines k (unparsed f) = unparsed (f.shift k) := by
  refine shiftLines_withLines ?_ k f.lines
  intro g hg
  have hkeys : g.1 ∈ ["type", "text"] := List.mem_map_of_mem (f := Prod.fst) hg
  rintro he
  rw [he] at hkeys
  exact absurd hkeys (by decide)

/-! ## Fragments further down -/

variable {r : Reading} (hr : r.LeavesLines) (k : Nat)

include hr in
theorem convertAll_shift (l : LineRange) (ss : List Sql.Statement) :
    r.convertAll (l.shift k) ss = (r.convertAll l ss).map (List.map (shiftLines k)) := by
  induction ss with
  | nil => rfl
  | cons s ss ih =>
    unfold Reading.convertAll
    cases hs : r.convert s with
    | error e => rfl
    | ok v =>
      dsimp only
      rw [ih]
      cases r.convertAll l ss with
      | error e => rfl
      | ok vs =>
        show Except.ok (withLines (l.shift k) v :: vs.map (shiftLines k)) = _
        rw [← shiftLines_withLines (hr s v hs)]
        rfl

include hr in
/-- **A fragment** further down has its records further down. -/
theorem fragmentRecords_shift (f : Fragment) :
    r.fragmentRecords false (f.shift k) = (r.fragmentRecords false f).map (List.map (shiftLines k)) := by
  have htext : (f.shift k).text = f.text := rfl
  unfold Reading.fragmentRecords
  rw [htext]
  cases r.parse f.text with
  | ok ss => exact convertAll_shift hr k f.lines ss
  | error cause => exact congrArg (fun v => Except.ok [v]) (shiftLines_unparsed k f).symm

include hr in
/-- **Fragments** further down have their records further down. -/
theorem records_shift (fs : List Fragment) :
    r.records false (fs.map (Fragment.shift k)) = (r.records false fs).map (List.map (shiftLines k)) := by
  induction fs with
  | nil => rfl
  | cons f fs ih =>
    rw [List.map_cons, records_cons, records_cons, ih, fragmentRecords_shift hr]
    cases r.fragmentRecords false f with
    | error e => rfl
    | ok us =>
      cases r.records false fs with
      | error e => rfl
      | ok vs => exact congrArg Except.ok List.map_append.symm

/-! ## Dumps side by side -/

/-- The records of the whole are those of the first part and then those of the last, moved down by the line breaks
before it. -/
def ReadsInParts (read : String → Except Failure (List Value)) (a gap b : String) : Prop :=
  read (a ++ gap ++ b) = do return (← read a) ++ (← read b).map (shiftLines (lineBreaks (a ++ gap)))

theorem readsInParts_of_split {a gap b : String} {dialect : Option String} (hr : r.LeavesLines)
    (hsplit : split dialect (a ++ gap ++ b) =
      split dialect a ++ (split dialect b).map (Fragment.shift (lineBreaks (a ++ gap)))) :
    ReadsInParts (fun dump => r.records false (split dialect dump)) a gap b := by
  unfold ReadsInParts
  dsimp only
  rw [hsplit, records_append, records_shift hr]
  generalize r.records false (split dialect a) = us, r.records false (split dialect b) = vs
  cases us with
  | error e => rfl
  | ok us => cases vs <;> rfl

/-- Under a name that is not known no part with a statement is read, nor is the whole. -/
theorem readsInParts_of_unknown {a gap b : String} {dialect : Option String}
    (hsplit : split dialect (a ++ gap ++ b) =
      split dialect a ++ (split dialect b).map (Fragment.shift (lineBreaks (a ++ gap)))) (e : Failure) :
    ReadsInParts (fun dump => if (split dialect dump).isEmpty then .ok [] else .error e) a gap b := by
  unfold ReadsInParts
  dsimp only
  rw [hsplit]
  cases split dialect a with
  | cons f fs => rfl
  | nil => cases split dialect b <;> rfl

/-- **Dumps side by side.**  Let a dump be empty or end a statement, let nothing or a comment follow, and then any
dump.  In every dialect the whole is split into the statements of the first and those of the last, these further down
by the line breaks before them; and under every name but the one that leaves the choice of the dialect to the dump,
and in every reading, lenient reading gives the records of the first and then those of the last, their lines moved
down in the same way. -/
theorem split_read_append {dialect : Option String} {a gap : String} (ha : a = "" ∨ EndsStatement dialect a)
    (hgap : gap = "" ∨ Comment (Rules.ofDialect dialect) gap.toList) (b : String) :
    split dialect (a ++ gap ++ b) =
      split dialect a ++ (split dialect b).map (Fragment.shift (lineBreaks (a ++ gap))) ∧
    (dialect ≠ some "auto" →
      ReadsInParts (Dump.read dialect false) a gap b ∧
      ∀ r : Reading, r.LeavesLines → ReadsInParts (r.read dialect false) a gap b) := by
  have hsplit := split_append ha hgap b
  refine ⟨hsplit, fun hauto => ?_⟩
  have heffective : ∀ dump, effectiveDialect dialect dump = dialect := fun dump => if_neg hauto
  constructor
  · cases hd : Dialect.ofName? dialect with
    | some d =>
      have hread : Dump.read dialect false = fun dump => (Reading.ofDialect d).records false (split dialect dump) := by
        funext dump
        rw [read_of_known (by rw [heffective]; exact hd), Reading.read, heffective]
      rw [hread]
      exact readsInParts_of_split (leavesLines_ofDialect d) hsplit
    | none =>
      have hread : Dump.read dialect false = fun dump =>
          if (split dialect dump).isEmpty then .ok [] else .error (.unknownDialect (dialect.getD "")) := by
        funext dump
        unfold Dump.read readFragments
        dsimp only
        rw [heffective, hd]
      rw [hread]
      exact readsInParts_of_unknown hsplit _
  · intro r hr
    have hread : r.read dialect false = fun dump => r.records false (split dialect dump) := by
      funext dump
      rw [Reading.read, heffective]
    rw [hread]
    exact readsInParts_of_split hr hsplit

/-- A semicolon in quotes, one in a comment and one that ends the statement, then a comment of a line. -/
theorem split_read_append_comment :
    EndsStatement (some "mysql") "SELECT ';'\n/* ; */;" ∧
      Comment (Rules.ofDialect (some "mysql")) "# ;\n".toList ∧
      split (some "mysql") ("SELECT ';'\n/* ; */;" ++ "# ;\n" ++ "USE x") =
        [⟨"SELECT ';'", ⟨1, 2⟩⟩] ++ [⟨"USE x", ⟨3, 3⟩⟩] ∧
      ReadsInParts ((Reading.ofDialect .mysql).read (some "mysql") false) "SELECT ';'\n/* ; */;" "# ;\n" "USE x" := by
  have hends : EndsStatement (some "mysql") "SELECT ';'\n/* ; */;" := ⟨"SELECT ';'\n/* ; */".toList, by decide, by decide⟩
  have hcomment : Comment (Rules.ofDialect (some "mysql")) "# ;\n".toList := .number (w := [' ', ';']) rfl (by decide)
  obtain ⟨hsplit, hread⟩ := split_read_append (.inr hends) (.inr hcomment) "USE x"
  refine ⟨hends, hcomment, hsplit.trans (by decide), ?_⟩
  exact (hread (by decide)).2 (Reading.ofDialect .mysql) (leavesLines_ofDialect .mysql)

end DumpSummary.Dump
