import DumpSummary.Proofs.Json.Literal

/-!
# JSON text, read back

The text of a value is read back as the value, in every layout, if the value is *exact*: it holds no floating-point
number, and no name stands twice in one of its records.  The blanks of a layout stand only between the tokens, where
the reader passes over them.

## Contents

* `Exact`: the values that their text keeps;
* `skipBlanks_edge`, `separator_eq`: the blanks of a layout;
* `Reads`, `readItems_writeItems`, `readFields_writeFields`: values, and what stands in lists and records;
* `readValue_writeAt`: a value inside a text;
* `read?_write`: **an exact value is read back from its text.**
-/

namespace DumpSummary.Json

/-- A value that its text keeps: whole numbers only, and no name twice in a record. -/
inductive Exact : Value → Prop
  /-- The absent value. -/
  | null : Exact .null
  /-- A truth value. -/
  | bool (b : Bool) : Exact (.bool b)
  /-- A whole number. -/
  | int (n : Int) : Exact (.int n)
  /-- A text. -/
  | text (s : String) : Exact (.text s)
  /-- A list of such values. -/
  | list {vs : List Value} (items : ∀ v ∈ vs, Exact v) : Exact (.list vs)
  /-- A record of such values under different names. -/
  | record {fs : List (String × Value)} (distinct : (fs.map Prod.fst).Nodup) (values : ∀ f ∈ fs, Exact f.2) :
    Exact (.record fs)

/-- A text or nothing is exact. -/
theorem exact_ofText? (s : Option String) : Exact (.ofText? s) := by
  cases s with
  | none => exact .null
  | some s => exact .text s

/-- A list of texts is exact. -/
theorem exact_texts (ss : List String) : Exact (.texts ss) := by
  refine .list fun v hv => ?_
  obtain ⟨s, -, rfl⟩ := List.mem_map.mp hv
  exact .text s

/-! ## Blanks -/

variable {l : Layout} {depth : Nat} {c : Char} {cs rest : List Char} {v : Value} {vs : List Value}

/-- Blanks before a text are passed over. -/
theorem skipBlanks_append {blanks : List Char} (h : ∀ c ∈ blanks, isSpace c = true) (cs : List Char) :
    skipBlanks (blanks ++ cs) = skipBlanks cs := by
  unfold skipBlanks
  exact List.dropWhile_append_of_pos h

/-- A text that begins with no blank stays as it is. -/
theorem skipBlanks_cons (h : isSpace c = false) (cs : List Char) : skipBlanks (c :: cs) = c :: cs := by
  unfold skipBlanks
  rw [List.dropWhile_cons_of_neg]
  rw [h]
  decide

theorem isSpace_of_mem_indent {n : Nat} (h : c ∈ '\n' :: List.replicate n ' ') : isSpace c = true := by
  rcases List.mem_cons.mp h with rfl | h
  · decide
  · rw [List.eq_of_mem_replicate h]
    decide

/-- What stands next to a bracket is blank. -/
theorem isSpace_of_mem_edge (h : c ∈ l.edge depth) : isSpace c = true := by
  cases l with
  | line => exact (List.not_mem_nil h).elim
  | lines w => exact isSpace_of_mem_indent h

/-- The blanks behind the comma between two items. -/
def Layout.gap (l : Layout) (depth : Nat) : List Char :=
  match l with
  | .line => [' ']
  | .lines w => '\n' :: List.replicate (w * depth) ' '

theorem separator_eq (l : Layout) (depth : Nat) : l.separator depth = ',' :: l.gap depth := by
  cases l <;> rfl

theorem isSpace_of_mem_gap (h : c ∈ l.gap depth) : isSpace c = true := by
  cases l with
  | line =>
    rw [List.mem_singleton.mp h]
    decide
  | lines w => exact isSpace_of_mem_indent h

theorem skipBlanks_edge (l : Layout) (depth : Nat) (cs : List Char) :
    skipBlanks (l.edge depth ++ cs) = skipBlanks cs :=
  skipBlanks_append (fun _ hc => isSpace_of_mem_edge hc) cs

theorem skipBlanks_gap (l : Layout) (depth : Nat) (cs : List Char) :
    skipBlanks (l.gap depth ++ cs) = skipBlanks cs :=
  skipBlanks_append (fun _ hc => isSpace_of_mem_gap hc) cs

/-- A number ends at a blank. -/
theorem ends_of_isSpace (h : isSpace c = true) (cs : List Char) : Ends (c :: cs) := by
  simp only [isSpace, Bool.or_eq_true, beq_iff_eq] at h
  rcases h with ((rfl | rfl) | rfl) | rfl <;> exact ends_cons (by decide) cs

/-- A number ends at blanks and a bracket behind them. -/
theorem ends_edge (h : Ends (c :: cs)) (l : Layout) (depth : Nat) : Ends (l.edge depth ++ c :: cs) := by
  cases l with
  | line => exact h
  | lines w => exact ends_of_isSpace (c := '\n') (by decide) _

theorem ends_separator (l : Layout) (depth : Nat) (cs : List Char) : Ends (l.separator depth ++ cs) := by
  rw [separator_eq]
  exact ends_cons (by decide) _

/-! ## What a text begins with -/

/-- A value begins with no blank and with no closing bracket. -/
structure Opens (c : Char) : Prop where
  /-- It is no blank. -/
  space : isSpace c = false
  /-- It closes no list. -/
  bracket : c ≠ ']'
  /-- It closes no record. -/
  brace : c ≠ '\x7d'

theorem opens_of_isDigit (h : c.isDigit = true) : Opens c := by
  have hne : ∀ x : Char, x.isDigit = false → c ≠ x := by
    rintro x hx rfl
    rw [h] at hx
    cases hx
  have hspace : isSpace c = false := by
    simp [isSpace, hne ' ' (by decide), hne '\t' (by decide), hne '\n' (by decide), hne '\r' (by decide)]
  exact ⟨hspace, hne _ (by decide), hne _ (by decide)⟩

/-- The text of an exact value begins like this. -/
theorem exists_head_writeAt (l : Layout) (depth : Nat) (h : Exact v) :
    ∃ c cs, writeAt l depth v = c :: cs ∧ Opens c := by
  cases h with
  | null => exact ⟨'n', _, rfl, by decide, by decide, by decide⟩
  | bool b => cases b <;> exact ⟨_, _, rfl, by decide, by decide, by decide⟩
  | int n =>
    obtain ⟨c, cs, hcs, hdigit | rfl⟩ := exists_head_integerLiteral n
    · exact ⟨c, cs, hcs, opens_of_isDigit hdigit⟩
    · exact ⟨'-', cs, hcs, by decide, by decide, by decide⟩
  | text s => exact ⟨'\x22', _, rfl, by decide, by decide, by decide⟩
  | @list vs _ => cases vs <;> exact ⟨'[', _, rfl, by decide, by decide, by decide⟩
  | @record fs _ _ =>
    rcases fs with _ | ⟨⟨k, v⟩, fs⟩ <;> exact ⟨'\x7b', _, rfl, by decide, by decide, by decide⟩

theorem length_writeAt_pos (l : Layout) (depth : Nat) (h : Exact v) : 0 < (writeAt l depth v).length := by
  obtain ⟨c, cs, hcs, -⟩ := exists_head_writeAt l depth h
  rw [hcs]
  exact Nat.succ_pos _

theorem skipBlanks_writeAt (l : Layout) (depth : Nat) (h : Exact v) (rest : List Char) :
    skipBlanks (writeAt l depth v ++ rest) = writeAt l depth v ++ rest := by
  obtain ⟨c, cs, hcs, hc⟩ := exists_head_writeAt l depth h
  rw [hcs, List.cons_append, skipBlanks_cons hc.space]

/-! ## Items -/

/-- The text of the value is read back wherever it stands, if the fuel covers its length. -/
def Reads (l : Layout) (v : Value) : Prop :=
  ∀ depth fuel rest, Ends rest → (writeAt l depth v).length < fuel →
    readValue fuel (writeAt l depth v ++ rest) = some (v, rest)

section Steps

variable {fuel : Nat} {more : List Char}

/-- Behind an item comes the next one. -/
theorem readItems_next (hvalue : readValue fuel cs = some (v, rest)) (hrest : skipBlanks rest = ',' :: more)
    (done : List Value) : readItems (fuel + 1) done cs = readItems fuel (v :: done) (skipBlanks more) := by
  simp [readItems, hvalue, hrest]

/-- Behind the last item the list is closed. -/
theorem readItems_last (hvalue : readValue fuel cs = some (v, rest)) (hrest : skipBlanks rest = ']' :: more)
    (done : List Value) : readItems (fuel + 1) done cs = some (.list (v :: done).reverse, more) := by
  simp [readItems, hvalue, hrest]

end Steps

/-- **The items of a list** are read back up to its bracket. -/
theorem readItems_writeItems (hexact : ∀ w ∈ v :: vs, Exact w) (hreads : ∀ w ∈ v :: vs, Reads l w) (depth outer : Nat)
    (rest : List Char) (done : List Value) (fuel : Nat)
    (hfuel : (writeAt l depth v).length + (writeItems l depth vs).length + 1 < fuel) :
    readItems fuel done (writeAt l depth v ++ (writeItems l depth vs ++ (l.edge outer ++ ']' :: rest)))
      = some (.list (done.reverse ++ v :: vs), rest) := by
  induction vs generalizing v done fuel with
  | nil =>
    obtain ⟨fuel, rfl⟩ := Nat.exists_eq_add_one_of_ne_zero (Nat.ne_of_gt (Nat.zero_lt_of_lt hfuel))
    have hvalue := hreads v List.mem_cons_self depth fuel (l.edge outer ++ ']' :: rest)
      (ends_edge (ends_cons (by decide) rest) l outer)
      (by simp only [writeItems, List.length_nil] at hfuel; omega)
    have hclose : skipBlanks (l.edge outer ++ ']' :: rest) = ']' :: rest := by
      rw [skipBlanks_edge, skipBlanks_cons (by decide)]
    rw [writeItems, List.nil_append, readItems_last hvalue hclose, List.reverse_cons]
  | cons w ws ih =>
    obtain ⟨fuel, rfl⟩ := Nat.exists_eq_add_one_of_ne_zero (Nat.ne_of_gt (Nat.zero_lt_of_lt hfuel))
    have hw := hexact w (by simp)
    have hpos := length_writeAt_pos l depth (hexact v List.mem_cons_self)
    have hitems : writeItems l depth (w :: ws) = l.separator depth ++ writeAt l depth w ++ writeItems l depth ws := rfl
    rw [hitems] at hfuel ⊢
    simp only [List.length_append] at hfuel
    -- behind the comma the reader goes on with the next item
    have hnext := ih (v := w) (fun x hx => hexact x (List.mem_cons_of_mem v hx))
      (fun x hx => hreads x (List.mem_cons_of_mem v hx)) (v :: done) fuel (by omega)
    rw [List.append_assoc, List.append_assoc]
    have hvalue := hreads v List.mem_cons_self depth fuel
      (l.separator depth ++ (writeAt l depth w ++ (writeItems l depth ws ++ (l.edge outer ++ ']' :: rest))))
      (ends_separator l depth _) (by omega)
    have hcomma : skipBlanks
        (l.separator depth ++ (writeAt l depth w ++ (writeItems l depth ws ++ (l.edge outer ++ ']' :: rest))))
        = ',' :: (l.gap depth ++ (writeAt l depth w ++ (writeItems l depth ws ++ (l.edge outer ++ ']' :: rest)))) := by
      rw [separator_eq, List.cons_append, skipBlanks_cons (by decide)]
    rw [readItems_next hvalue hcomma, skipBlanks_gap, skipBlanks_writeAt l depth hw, hnext]
    simp

/-! ## Fields -/

/-- A field with a new name is put behind the others. -/
theorem putField_of_notMem {done : List (String × Value)} {k : String} (h : k ∉ done.map Prod.fst) (v : Value) :
    putField done k v = done ++ [(k, v)] := by
  have hany : done.any (·.1 == k) = false := by
    rw [List.any_eq_false]
    intro f hf he
    exact h (beq_iff_eq.mp he ▸ List.mem_map_of_mem hf)
  unfold putField
  rw [hany]
  rfl

/-- The text of a field. -/
def fieldText (l : Layout) (depth : Nat) (f : String × Value) : List Char :=
  stringLiteral f.1 ++ ([':', ' '] ++ writeAt l depth f.2)

theorem writeFields_cons (l : Layout) (depth : Nat) (f : String × Value) (fs : List (String × Value)) :
    writeFields l depth (f :: fs) = l.separator depth ++ (fieldText l depth f ++ writeFields l depth fs) := by
  simp [writeFields, fieldText]

theorem fieldText_append (l : Layout) (depth : Nat) (f : String × Value) (rest : List Char) :
    fieldText l depth f ++ rest
      = '\x22' :: (f.1.toList.flatMap escapedChar ++ '\x22' :: ':' :: ' ' :: (writeAt l depth f.2 ++ rest)) := by
  simp [fieldText, stringLiteral]

theorem skipBlanks_fieldText (l : Layout) (depth : Nat) (f : String × Value) (rest : List Char) :
    skipBlanks (fieldText l depth f ++ rest) = fieldText l depth f ++ rest := by
  rw [fieldText_append, skipBlanks_cons (by decide)]

/-- The space behind a colon is passed over. -/
theorem skipBlanks_space (h : Exact v) (depth : Nat) (rest : List Char) :
    skipBlanks (' ' :: (writeAt l depth v ++ rest)) = writeAt l depth v ++ rest := by
  have hblank : ∀ c ∈ [' '], isSpace c = true := List.forall_mem_singleton.mpr (by decide)
  exact (skipBlanks_append hblank _).trans (skipBlanks_writeAt l depth h rest)

section Steps

variable {fuel : Nat} {more : List Char} {f : String × Value} (hexact : Exact f.2)
  (hvalue : readValue fuel (writeAt l depth f.2 ++ rest) = some (f.2, rest))

include hexact hvalue

/-- Behind a field comes the next one. -/
theorem readFields_next (hrest : skipBlanks rest = ',' :: more) (done : List (String × Value)) :
    readFields (fuel + 1) done (fieldText l depth f ++ rest)
      = readFields fuel (putField done f.1 f.2) (skipBlanks more) := by
  have hspace := skipBlanks_space hexact (l := l) depth rest
  rw [fieldText_append]
  simp [readFields, readString_stringLiteral, skipBlanks_cons (c := ':') (by decide), hspace, hvalue, hrest]

/-- Behind the last field the record is closed. -/
theorem readFields_last (hrest : skipBlanks rest = '\x7d' :: more) (done : List (String × Value)) :
    readFields (fuel + 1) done (fieldText l depth f ++ rest) = some (.record (putField done f.1 f.2), more) := by
  have hspace := skipBlanks_space hexact (l := l) depth rest
  rw [fieldText_append]
  simp [readFields, readString_stringLiteral, skipBlanks_cons (c := ':') (by decide), hspace, hvalue, hrest]

end Steps

/-- **The fields of a record** are read back up to its brace. -/
theorem readFields_writeFields {f : String × Value} {fs : List (String × Value)} (hexact : ∀ g ∈ f :: fs, Exact g.2)
    (hreads : ∀ g ∈ f :: fs, Reads l g.2) (depth outer : Nat) (rest : List Char) (done : List (String × Value))
    (hdistinct : ((done ++ f :: fs).map Prod.fst).Nodup) (fuel : Nat)
    (hfuel : (fieldText l depth f).length + (writeFields l depth fs).length < fuel) :
    readFields fuel done (fieldText l depth f ++ (writeFields l depth fs ++ (l.edge outer ++ '\x7d' :: rest)))
      = some (.record (done ++ f :: fs), rest) := by
  have hnew : ∀ {f : String × Value} {done fs : List (String × Value)}, ((done ++ f :: fs).map Prod.fst).Nodup →
      f.1 ∉ done.map Prod.fst := by
    intro f done fs h hmem
    rw [List.map_append, List.nodup_append] at h
    exact h.2.2 f.1 hmem f.1 List.mem_cons_self rfl
  have hlength : ∀ f : String × Value, (writeAt l depth f.2).length + 1 < (fieldText l depth f).length := by
    intro f
    simp only [fieldText, stringLiteral, List.length_append, List.length_cons]
    omega
  induction fs generalizing f done fuel with
  | nil =>
    obtain ⟨fuel, rfl⟩ := Nat.exists_eq_add_one_of_ne_zero (Nat.ne_of_gt (Nat.zero_lt_of_lt hfuel))
    have hvalue := hreads f List.mem_cons_self depth fuel (l.edge outer ++ '\x7d' :: rest)
      (ends_edge (ends_cons (by decide) rest) l outer)
      (by have := hlength f; omega)
    have hclose : skipBlanks (l.edge outer ++ '\x7d' :: rest) = '\x7d' :: rest := by
      rw [skipBlanks_edge, skipBlanks_cons (by decide)]
    rw [writeFields, List.nil_append, readFields_last (hexact f List.mem_cons_self) hvalue hclose,
      putField_of_notMem (hnew hdistinct)]
  | cons g gs ih =>
    obtain ⟨fuel, rfl⟩ := Nat.exists_eq_add_one_of_ne_zero (Nat.ne_of_gt (Nat.zero_lt_of_lt hfuel))
    have hfield := hlength f
    rw [writeFields_cons] at hfuel ⊢
    simp only [List.length_append] at hfuel
    -- the field that has been read goes to the others
    have hmoved : (done ++ [(f.1, f.2)]) ++ g :: gs = done ++ f :: g :: gs := by simp
    have hnext := ih (f := g) (fun x hx => hexact x (List.mem_cons_of_mem f hx))
      (fun x hx => hreads x (List.mem_cons_of_mem f hx)) (done ++ [(f.1, f.2)]) (by rw [hmoved]; exact hdistinct) fuel
      (by omega)
    rw [List.append_assoc, List.append_assoc]
    have hvalue := hreads f List.mem_cons_self depth fuel
      (l.separator depth ++ (fieldText l depth g ++ (writeFields l depth gs ++ (l.edge outer ++ '\x7d' :: rest))))
      (ends_separator l depth _) (by omega)
    have hcomma : skipBlanks
        (l.separator depth ++ (fieldText l depth g ++ (writeFields l depth gs ++ (l.edge outer ++ '\x7d' :: rest))))
        = ',' :: (l.gap depth
          ++ (fieldText l depth g ++ (writeFields l depth gs ++ (l.edge outer ++ '\x7d' :: rest)))) := by
      rw [separator_eq, List.cons_append, skipBlanks_cons (by decide)]
    rw [readFields_next (hexact f List.mem_cons_self) hvalue hcomma, skipBlanks_gap, skipBlanks_fieldText,
      putField_of_notMem (hnew hdistinct), hnext, hmoved]

/-! ## Values -/

/-- A list with items, and what comes behind it. -/
theorem writeAt_list_append (l : Layout) (depth : Nat) (v : Value) (vs : List Value) (rest : List Char) :
    writeAt l depth (.list (v :: vs)) ++ rest = '[' :: (l.edge (depth + 1)
      ++ (writeAt l (depth + 1) v ++ (writeItems l (depth + 1) vs ++ (l.edge depth ++ ']' :: rest)))) := by
  simp [writeAt]

/-- A record with fields, and what comes behind it. -/
theorem writeAt_record_append (l : Layout) (depth : Nat) (f : String × Value) (fs : List (String × Value))
    (rest : List Char) :
    writeAt l depth (.record (f :: fs)) ++ rest = '\x7b' :: (l.edge (depth + 1)
      ++ (fieldText l (depth + 1) f ++ (writeFields l (depth + 1) fs ++ (l.edge depth ++ '\x7d' :: rest)))) := by
  simp [writeAt, fieldText]

/-- A text that begins with a digit or a minus sign is read as a number. -/
theorem readValue_number (h : c.isDigit = true ∨ c = '-') (fuel : Nat) (cs : List Char) :
    readValue (fuel + 1) (c :: cs) = readNumber (c :: cs) := by
  have hne : ∀ x : Char, x.isDigit = false ∧ x ≠ '-' → c ≠ x := by
    rintro x ⟨hx, hminus⟩ rfl
    rcases h with h | h
    · rw [h] at hx
      cases hx
    · exact hminus h
  simp [readValue, hne '\x22' (by decide), hne '[' (by decide), hne '\x7b' (by decide), hne 'n' (by decide),
    hne 't' (by decide), hne 'f' (by decide)]

/-- **A value inside a text** is read back. -/
theorem readValue_writeAt (l : Layout) (h : Exact v) : Reads l v := by
  induction h with
  | null =>
    intro depth fuel rest _ hfuel
    obtain ⟨fuel, rfl⟩ := Nat.exists_eq_add_one_of_ne_zero (Nat.ne_of_gt (Nat.zero_lt_of_lt hfuel))
    rfl
  | bool b =>
    intro depth fuel rest _ hfuel
    obtain ⟨fuel, rfl⟩ := Nat.exists_eq_add_one_of_ne_zero (Nat.ne_of_gt (Nat.zero_lt_of_lt hfuel))
    cases b <;> rfl
  | int n =>
    intro depth fuel rest hends hfuel
    obtain ⟨fuel, rfl⟩ := Nat.exists_eq_add_one_of_ne_zero (Nat.ne_of_gt (Nat.zero_lt_of_lt hfuel))
    have hnumber := readNumber_integerLiteral hends n
    obtain ⟨c, cs, hcs, hc⟩ := exists_head_integerLiteral n
    show readValue (fuel + 1) (integerLiteral n ++ rest) = _
    rw [hcs, List.cons_append] at hnumber ⊢
    rw [readValue_number hc, hnumber]
  | text s =>
    intro depth fuel rest _ hfuel
    obtain ⟨fuel, rfl⟩ := Nat.exists_eq_add_one_of_ne_zero (Nat.ne_of_gt (Nat.zero_lt_of_lt hfuel))
    have htext : writeAt l depth (.text s) ++ rest = '\x22' :: (s.toList.flatMap escapedChar ++ '\x22' :: rest) := by
      simp [writeAt, stringLiteral]
    rw [htext, readValue, readString_stringLiteral]
    rfl
  | @list vs hvs ih =>
    intro depth fuel rest _ hfuel
    obtain ⟨fuel, rfl⟩ := Nat.exists_eq_add_one_of_ne_zero (Nat.ne_of_gt (Nat.zero_lt_of_lt hfuel))
    cases vs with
    | nil =>
      show readValue (fuel + 1) ('[' :: ']' :: rest) = _
      simp [readValue, skipBlanks_cons (c := ']') (by decide)]
    | cons v vs =>
      have hitems := readItems_writeItems hvs ih (depth + 1) depth rest [] fuel
        (by simp only [writeAt, List.length_append, List.length_cons, List.length_nil] at hfuel; omega)
      obtain ⟨c, cs, hcs, hc⟩ := exists_head_writeAt l (depth + 1) (hvs v List.mem_cons_self)
      rw [writeAt_list_append, readValue, skipBlanks_edge,
        skipBlanks_writeAt l (depth + 1) (hvs v List.mem_cons_self)]
      rw [hcs, List.cons_append] at hitems ⊢
      simp [hc.bracket, hitems]
  | @record fs hdistinct hfs ih =>
    intro depth fuel rest _ hfuel
    obtain ⟨fuel, rfl⟩ := Nat.exists_eq_add_one_of_ne_zero (Nat.ne_of_gt (Nat.zero_lt_of_lt hfuel))
    cases fs with
    | nil =>
      show readValue (fuel + 1) ('\x7b' :: '\x7d' :: rest) = _
      simp [readValue, skipBlanks_cons (c := '\x7d') (by decide)]
    | cons f fs =>
      have hfields := readFields_writeFields hfs ih (depth + 1) depth rest [] hdistinct fuel
        (by
          have hlength := congrArg List.length (writeAt_record_append l depth f fs rest)
          simp only [List.length_append, List.length_cons] at hlength
          omega)
      rw [writeAt_record_append, readValue, skipBlanks_edge, skipBlanks_fieldText]
      rw [fieldText_append] at hfields ⊢
      simp [hfields]

/-- **An exact value is read back from its text**, in every layout, with blanks behind it or without. -/
theorem read?_write (l : Layout) (h : Exact v) (blanks : List Char) (hblanks : ∀ c ∈ blanks, isSpace c = true) :
    read? (write l v ++ String.ofList blanks) = some v := by
  have hlist : (write l v ++ String.ofList blanks).toList = writeAt l 0 v ++ blanks := by
    rw [String.toList_append, write, String.toList_ofList, String.toList_ofList]
  have hends : Ends blanks := by
    cases blanks with
    | nil => trivial
    | cons c cs => exact ends_of_isSpace (hblanks c List.mem_cons_self) cs
  have hrest : skipBlanks blanks = [] := by
    have h := skipBlanks_append hblanks []
    rw [List.append_nil] at h
    exact h
  have hvalue := readValue_writeAt l h 0 ((writeAt l 0 v ++ blanks).length + 1) blanks hends
    (by rw [List.length_append]; omega)
  unfold read?
  rw [hlist, skipBlanks_writeAt l 0 h]
  dsimp only
  rw [hvalue]
  dsimp only
  rw [hrest]
  rfl

end DumpSummary.Json
