import DumpSummary.Proofs.Dump.Reading

/-!
# Strict and lenient reading

Strict reading ends at the first fragment that cannot be read and names its lines; lenient reading has a record in its
place and goes on.  Where every fragment can be read the two give the same records, and then the same summary.

A parser gives a list of expressions for a text, in which some may be missing: a piece between two semicolons may be
empty.  `Reading.ofParser` passes over these.  All statements of the dump are taken to have a record here.

## Contents

* `Reading.ofParser`, `Sql.expressions`: a parser that leaves gaps, and that of a dialect;
* `HasFields`, `hasFields_shownFields`: statements that have records;
* `expressionRecords`, `fragmentRecords_of_ok`, `fragmentRecords_lenient_of_error`: the records of a fragment;
* `records_of_ok`, `records_of_error`: a run over fragments, and one that ends at a fragment;
* `exists_first_rejected`, `Agreement`: how strict and lenient reading are related;
* `strict_agrees_lenient`: **strict and lenient reading agree.**
-/

namespace DumpSummary.Sql

/-- What stands between the semicolons of a text: a statement or nothing each. -/
def expressions (d : Dialect) (text : String) : Except Rejection (List (Option Statement)) :=
  match scan? d text with
  | none => .error .unterminated
  | some tokens => (pieces tokens).mapM (parsePiece d)

/-- The statements of a text are those of its expressions that are statements. -/
theorem parse_eq (d : Dialect) (text : String) : parse d text = (expressions d text).map (List.filterMap id) := by
  unfold parse expressions
  cases scan? d text with
  | none => rfl
  | some tokens =>
    dsimp only
    cases (pieces tokens).mapM (parsePiece d) <;> rfl

end DumpSummary.Sql

namespace DumpSummary.Dump

open Script

/-- The expressions of a text, of which some may be missing, or why it is refused. -/
abbrev Parser := String → Except Sql.Rejection (List (Option Sql.Statement))

/-- The reading of a parser: an expression that is missing has no record. -/
def Reading.ofParser (parser : Parser) (convert : Sql.Statement → Except Record.Fault Value) : Reading :=
  ⟨fun text => (parser text).map (List.filterMap id), convert⟩

theorem ofDialect_eq (d : Dialect) :
    Reading.ofDialect d = Reading.ofParser (Sql.expressions d) (Record.ofStatement d) := by
  unfold Reading.ofDialect Reading.ofParser
  rw [funext (Sql.parse_eq d)]

/-! ## The records of a fragment -/

/-- The statements that occur in some fragments have records with these fields. -/
def HasFields (parser : Parser) (convert : Sql.Statement → Except Record.Fault Value)
    (fields : Sql.Statement → List (String × Value)) (fs : List Fragment) : Prop :=
  ∀ f ∈ fs, ∀ es, parser f.text = .ok es → ∀ s, some s ∈ es → convert s = .ok (.record (fields s))

/-- The fields of the record of a statement that has one. -/
def shownFields (d : Dialect) (s : Sql.Statement) : List (String × Value) :=
  match Record.fieldsOf d s with
  | .ok fields => fields
  | .error _ => []

/-- Whether all statements of a text have records. -/
def allShown (d : Dialect) (text : String) : Bool :=
  match Sql.expressions d text with
  | .ok es => es.all fun e => e.all fun s => (Record.fieldsOf d s).isOk
  | .error _ => true

/-- In a dialect, the statements whose fields can be shown have records. -/
theorem hasFields_shownFields {d : Dialect} {fs : List Fragment} (h : ∀ f ∈ fs, allShown d f.text = true) :
    HasFields (Sql.expressions d) (Record.ofStatement d) (shownFields d) fs := by
  intro f hf es hes s hs
  have hall := h f hf
  unfold allShown at hall
  rw [hes] at hall
  have hshown : (Record.fieldsOf d s).isOk = true := List.all_eq_true.mp hall (some s) hs
  unfold Record.ofStatement shownFields
  cases hfields : Record.fieldsOf d s with
  | ok fields => rfl
  | error fault =>
    rw [hfields] at hshown
    cases hshown

/-- The record of a statement with the lines it stands on. -/
def recordAt (fields : Sql.Statement → List (String × Value)) (l : LineRange) (s : Sql.Statement) : Value :=
  .record (fields s ++ [("loc", .record [("start_line", .int l.first), ("end_line", .int l.last)])])

/-- The lines of a record that has none of its own. -/
theorem field_loc_recordAt {fields : Sql.Statement → List (String × Value)} {s : Sql.Statement}
    (h : Lacks "loc" (.record (fields s))) (l : LineRange) :
    (recordAt fields l s).field "loc" = .record [("start_line", .int l.first), ("end_line", .int l.last)] := by
  have hown : (fields s).lookup "loc" = none := by
    rw [List.lookup_eq_none_iff]
    intro p hp
    exact bne_iff_ne.mpr (h p hp).symm
  unfold recordAt Value.field
  dsimp only
  rw [List.lookup_append, hown]
  rfl

/-- The records of a fragment in lenient reading: one for each expression that is not missing, or one for all of the
text. -/
def expressionRecords (parser : Parser) (fields : Sql.Statement → List (String × Value)) (f : Fragment) : List Value :=
  match parser f.text with
  | .ok es => es.filterMap fun e => e.map (recordAt fields f.lines)
  | .error _ =>
    [.record [("type", .text "unparsed"), ("text", .text f.text),
      ("loc", .record [("start_line", .int f.lines.first), ("end_line", .int f.lines.last)])]]

variable {parser : Parser} {convert : Sql.Statement → Except Record.Fault Value}
  {fields : Sql.Statement → List (String × Value)}

/-- Statements that have records have all their records. -/
theorem values_of_ok {r : Reading} {ss : List Sql.Statement} (h : ∀ s ∈ ss, r.convert s = .ok (.record (fields s))) :
    r.values ss = .ok (ss.map fun s => .record (fields s)) := by
  induction ss with
  | nil => rfl
  | cons s ss ih =>
    have hs := h s List.mem_cons_self
    have hrest := ih fun t ht => h t (List.mem_cons_of_mem s ht)
    unfold Reading.values
    rw [hs, hrest]
    rfl

/-- A fragment that can be read has the same records in strict and in lenient reading. -/
theorem fragmentRecords_of_ok {f : Fragment} {es : List (Option Sql.Statement)} (hes : parser f.text = .ok es)
    (hfields : ∀ s, some s ∈ es → convert s = .ok (.record (fields s))) (strict : Bool) :
    (Reading.ofParser parser convert).fragmentRecords strict f = .ok (expressionRecords parser fields f) := by
  have hparse : (Reading.ofParser parser convert).parse f.text = .ok (es.filterMap id) := congrArg (Except.map _) hes
  have hvalues : (Reading.ofParser parser convert).values (es.filterMap id) =
      .ok ((es.filterMap id).map fun s => .record (fields s)) := by
    refine values_of_ok fun s hs => hfields s ?_
    simpa using hs
  have hrecords : expressionRecords parser fields f = (es.filterMap id).map (recordAt fields f.lines) := by
    unfold expressionRecords
    rw [hes, List.map_filterMap]
    rfl
  unfold Reading.fragmentRecords
  rw [hparse]
  dsimp only
  rw [convertAll_eq, hvalues, hrecords]
  show Except.ok (((es.filterMap id).map fun s => Value.record (fields s)).map (withLines f.lines)) = _
  rw [List.map_map]
  rfl

/-- In strict reading a fragment that cannot be read is where the reading fails. -/
theorem fragmentRecords_strict_of_error {f : Fragment} {cause : Sql.Rejection} (h : parser f.text = .error cause) :
    (Reading.ofParser parser convert).fragmentRecords true f = .error (.rejected cause f.lines) := by
  have hparse : (Reading.ofParser parser convert).parse f.text = .error cause := congrArg (Except.map _) h
  unfold Reading.fragmentRecords
  rw [hparse]
  rfl

/-- In lenient reading it has one record. -/
theorem fragmentRecords_lenient_of_error {f : Fragment} {cause : Sql.Rejection} (h : parser f.text = .error cause) :
    (Reading.ofParser parser convert).fragmentRecords false f = .ok (expressionRecords parser fields f) := by
  have hparse : (Reading.ofParser parser convert).parse f.text = .error cause := congrArg (Except.map _) h
  unfold Reading.fragmentRecords expressionRecords
  rw [hparse, h]
  rfl

/-! ## A run over fragments -/

section Run

variable {r : Reading} {strict : Bool}

/-- **A run to the end**: the records of all fragments, one after the other. -/
theorem records_of_ok {records : Fragment → List Value} {fs : List Fragment}
    (h : ∀ f ∈ fs, r.fragmentRecords strict f = .ok (records f)) : r.records strict fs = .ok (fs.flatMap records) := by
  induction fs with
  | nil => rfl
  | cons f fs ih =>
    have hrest := ih fun g hg => h g (List.mem_cons_of_mem f hg)
    rw [records_cons, h f List.mem_cons_self, hrest]
    rfl

/-- **A run that ends at a fragment** ends with its failure, whatever is behind it. -/
theorem records_of_error {records : Fragment → List Value} {before after : List Fragment} {f : Fragment} {e : Failure}
    (hbefore : ∀ g ∈ before, r.fragmentRecords strict g = .ok (records g))
    (h : r.fragmentRecords strict f = .error e) : r.records strict (before ++ f :: after) = .error e := by
  rw [records_append, records_of_ok hbefore, records_cons, h]
  rfl

end Run

/-! ## Strict and lenient reading -/

/-- Every fragment can be read, or there is a first one that cannot. -/
theorem exists_first_rejected (parser : Parser) (fs : List Fragment) :
    (∀ f ∈ fs, ∃ es, parser f.text = .ok es) ∨
      ∃ before f after cause, fs = before ++ f :: after ∧ (∀ g ∈ before, ∃ es, parser g.text = .ok es) ∧
        parser f.text = .error cause := by
  induction fs with
  | nil => exact .inl fun f hf => (List.not_mem_nil hf).elim
  | cons f fs ih =>
    cases hf : parser f.text with
    | error cause => exact .inr ⟨[], f, fs, cause, rfl, fun g hg => (List.not_mem_nil hg).elim, hf⟩
    | ok es =>
      have hhead : ∀ {gs : List Fragment}, (∀ g ∈ gs, ∃ es, parser g.text = .ok es) →
          ∀ g ∈ f :: gs, ∃ es, parser g.text = .ok es := by
        intro gs hgs g hg
        rcases List.mem_cons.mp hg with rfl | hg
        · exact ⟨es, hf⟩
        · exact hgs g hg
      rcases ih with hall | ⟨before, g, after, cause, rfl, hbefore, hg⟩
      · exact .inl (hhead hall)
      · exact .inr ⟨f :: before, g, after, cause, rfl, hhead hbefore, hg⟩

/-- How strict and lenient reading of some fragments are related when every statement in them has a record: `read` and
`summary` give the records and the summary, in strict reading and in lenient reading. -/
structure Agreement (parser : Parser) (fields : Sql.Statement → List (String × Value)) (fs : List Fragment)
    (read : Bool → Except Failure (List Value)) (summary : Bool → Except Failure Summary) : Prop where
  /-- Lenient reading gives the records of all fragments in their order. -/
  lenient : read false = .ok (fs.flatMap (expressionRecords parser fields))
  /-- Every record has the lines of its fragment. -/
  lines : ∀ f ∈ fs, ∀ v ∈ expressionRecords parser fields f,
    v.field "loc" = .record [("start_line", .int f.lines.first), ("end_line", .int f.lines.last)]
  /-- If every fragment can be read, strict reading gives the same records. -/
  accepted : (∀ f ∈ fs, ∃ es, parser f.text = .ok es) → read true = read false
  /-- Otherwise strict reading fails at the first fragment that cannot be read, with its lines. -/
  rejected : ¬ (∀ f ∈ fs, ∃ es, parser f.text = .ok es) →
    ∃ before f after cause, fs = before ++ f :: after ∧ (∀ g ∈ before, ∃ es, parser g.text = .ok es) ∧
      parser f.text = .error cause ∧ read true = .error (.rejected cause f.lines)
  /-- In strict reading there is no summary exactly where there are no records, for the same reason. -/
  fails : ∀ e, summary true = .error e ↔ read true = .error e
  /-- Where strict reading has records, the summary is that of lenient reading. -/
  summarizes : ∀ vs, read true = .ok vs → ∃ s, summary true = .ok s ∧ summary false = .ok s

section Agreement

variable {fs : List Fragment} (hlines : (Reading.ofParser parser convert).LeavesLines)
  (hfields : HasFields parser convert fields fs)

include hfields in
/-- In lenient reading no fragment fails. -/
theorem records_lenient :
    (Reading.ofParser parser convert).records false fs = .ok (fs.flatMap (expressionRecords parser fields)) := by
  refine records_of_ok fun f hf => ?_
  cases hparse : parser f.text with
  | ok es => exact fragmentRecords_of_ok hparse (hfields f hf es hparse) false
  | error cause => exact fragmentRecords_lenient_of_error hparse

include hfields in
/-- In strict reading no fragment fails if all can be read. -/
theorem records_strict (hall : ∀ f ∈ fs, ∃ es, parser f.text = .ok es) :
    (Reading.ofParser parser convert).records true fs = .ok (fs.flatMap (expressionRecords parser fields)) := by
  refine records_of_ok fun f hf => ?_
  obtain ⟨es, hes⟩ := hall f hf
  exact fragmentRecords_of_ok hes (hfields f hf es hes) true

/-- In strict reading the first fragment that cannot be read is where the reading fails. -/
theorem records_rejected {before after : List Fragment} {f : Fragment} {cause : Sql.Rejection}
    (hfields : HasFields parser convert fields (before ++ f :: after))
    (hbefore : ∀ g ∈ before, ∃ es, parser g.text = .ok es) (hf : parser f.text = .error cause) :
    (Reading.ofParser parser convert).records true (before ++ f :: after) = .error (.rejected cause f.lines) := by
  have hok : ∀ g ∈ before, (Reading.ofParser parser convert).fragmentRecords true g =
      .ok (expressionRecords parser fields g) := by
    intro g hg
    obtain ⟨es, hes⟩ := hbefore g hg
    exact fragmentRecords_of_ok hes (hfields g (List.mem_append_left _ hg) es hes) true
  exact records_of_error hok (fragmentRecords_strict_of_error hf)

include hlines hfields in
/-- Every record has the lines of its fragment. -/
theorem field_loc_expressionRecords {f : Fragment} (hf : f ∈ fs) {v : Value}
    (hv : v ∈ expressionRecords parser fields f) :
    v.field "loc" = .record [("start_line", .int f.lines.first), ("end_line", .int f.lines.last)] := by
  unfold expressionRecords at hv
  cases hparse : parser f.text with
  | error cause =>
    rw [hparse] at hv
    obtain rfl := List.mem_singleton.mp hv
    rfl
  | ok es =>
    rw [hparse] at hv
    obtain ⟨e, he, hrecord⟩ := List.mem_filterMap.mp hv
    obtain ⟨s, rfl, rfl⟩ := Option.map_eq_some_iff.mp hrecord
    exact field_loc_recordAt (hlines s _ (hfields f hf es hparse s he)) f.lines

include hlines hfields in
/-- **Strict and lenient reading** of fragments in the reading of a parser. -/
theorem agreement_records :
    Agreement parser fields fs (fun strict => (Reading.ofParser parser convert).records strict fs)
      fun strict => ((Reading.ofParser parser convert).records strict fs).map fun vs => summarize (.list vs) := by
  have hlenient := records_lenient hfields
  constructor
  case lenient => exact hlenient
  case lines => exact fun f hf v hv => field_loc_expressionRecords hlines hfields hf hv
  case accepted => exact fun hall => (records_strict hfields hall).trans hlenient.symm
  case rejected =>
    intro hsome
    rcases exists_first_rejected parser fs with hall | ⟨before, f, after, cause, rfl, hbefore, hf⟩
    · exact absurd hall hsome
    · exact ⟨before, f, after, cause, rfl, hbefore, hf, records_rejected hfields hbefore hf⟩
  case fails =>
    intro e
    constructor
    · intro h
      cases hread : (Reading.ofParser parser convert).records true fs with
      | error e' =>
        rw [hread] at h
        exact congrArg Except.error (Except.error.inj h)
      | ok vs =>
        rw [hread] at h
        cases h
    · exact fun h => congrArg (Except.map _) h
  case summarizes =>
    intro vs hvs
    -- a strict run with records has met no fragment that cannot be read
    rcases exists_first_rejected parser fs with hall | ⟨before, f, after, cause, rfl, hbefore, hf⟩
    · have hstrict := records_strict hfields hall
      exact ⟨_, congrArg (Except.map _) hstrict, congrArg (Except.map _) hlenient⟩
    · have herror := records_rejected hfields hbefore hf
      exact absurd (hvs.symm.trans herror) (by simp)

end Agreement

/-- **Strict and lenient reading agree**, in the reading of every parser under whose reading all statements of the dump
have records, and so under the name of every dialect.  If every fragment can be read the two give the same records;
otherwise strict reading fails with the lines of the first fragment that cannot be read, and lenient reading gives one
record for each such fragment and one for each expression of the others, in their order and each with the lines of its
fragment.  A summary follows the records. -/
theorem strict_agrees_lenient (dialect : Option String) (dump : String) :
    (∀ parser convert fields, (Reading.ofParser parser convert).LeavesLines →
      HasFields parser convert fields (split (effectiveDialect dialect dump) dump) →
        Agreement parser fields (split (effectiveDialect dialect dump) dump)
          (fun strict => (Reading.ofParser parser convert).read dialect strict dump)
          (fun strict => (Reading.ofParser parser convert).summarizeDump dialect strict dump)) ∧
    ∀ d, Dialect.ofName? (effectiveDialect dialect dump) = some d → ∀ fields,
      HasFields (Sql.expressions d) (Record.ofStatement d) fields (split (effectiveDialect dialect dump) dump) →
        Agreement (Sql.expressions d) fields (split (effectiveDialect dialect dump) dump)
          (fun strict => Dump.read dialect strict dump) (fun strict => summarizeDump dialect strict dump) := by
  constructor
  · intro parser convert fields hlines hfields
    exact agreement_records hlines hfields
  · intro d hd fields hfields
    have hread : (fun strict => Dump.read dialect strict dump) =
        fun strict => (Reading.ofParser (Sql.expressions d) (Record.ofStatement d)).read dialect strict dump := by
      funext strict
      rw [read_of_known hd, ofDialect_eq]
    have hsummary : (fun strict => summarizeDump dialect strict dump) =
        fun strict => (Reading.ofParser (Sql.expressions d) (Record.ofStatement d)).summarizeDump dialect strict dump := by
      funext strict
      rw [summarizeDump_of_known hd, ofDialect_eq]
    rw [hread, hsummary]
    refine agreement_records ?_ hfields
    rw [← ofDialect_eq]
    exact leavesLines_ofDialect d

/-- The dialect is left to the dump, and the second statement cannot be read. -/
theorem strict_agrees_lenient_shop :
    Dump.read (some "auto") false "USE shop;\nSELEC 1 1" =
        .ok ([⟨"USE shop", ⟨1, 1⟩⟩, ⟨"SELEC 1 1", ⟨2, 2⟩⟩].flatMap
          (expressionRecords (Sql.expressions .postgres) (shownFields .postgres))) ∧
      ∃ cause, Dump.read (some "auto") true "USE shop;\nSELEC 1 1" = .error (.rejected cause ⟨2, 2⟩) := by
  have heffective : effectiveDialect (some "auto") "USE shop;\nSELEC 1 1" = some "postgres" := by decide +kernel
  have hsplit : split (some "postgres") "USE shop;\nSELEC 1 1" = [⟨"USE shop", ⟨1, 1⟩⟩, ⟨"SELEC 1 1", ⟨2, 2⟩⟩] := by
    decide +kernel
  have hagree := (strict_agrees_lenient (some "auto") "USE shop;\nSELEC 1 1").2
  rw [heffective, hsplit] at hagree
  have h := hagree .postgres rfl (shownFields .postgres) (hasFields_shownFields (by decide +kernel))
  refine ⟨h.lenient, ?_⟩
  have hfirst : (Sql.expressions .postgres "USE shop").isOk = true := by decide +kernel
  have hsecond : (Sql.expressions .postgres "SELEC 1 1").isOk = false := by decide +kernel
  have hsome : ¬ ∀ f ∈ [(⟨"USE shop", ⟨1, 1⟩⟩ : Fragment), ⟨"SELEC 1 1", ⟨2, 2⟩⟩],
      ∃ es, Sql.expressions .postgres f.text = .ok es := by
    intro hall
    obtain ⟨es, hes⟩ := hall ⟨"SELEC 1 1", ⟨2, 2⟩⟩ (by simp)
    dsimp only at hes
    rw [hes] at hsecond
    cases hsecond
  obtain ⟨before, f, after, cause, hfs, -, hf, hread⟩ := h.rejected hsome
  -- the first statement is not the one that is refused
  rcases before with _ | ⟨g, _ | ⟨g', before⟩⟩
  · obtain ⟨rfl, -⟩ := List.cons.inj hfs
    dsimp only at hf
    rw [hf] at hfirst
    cases hfirst
  · obtain ⟨-, hrest⟩ := List.cons.inj hfs
    obtain ⟨rfl, -⟩ := List.cons.inj hrest
    exact ⟨cause, hread⟩
  · simp at hfs

end DumpSummary.Dump
