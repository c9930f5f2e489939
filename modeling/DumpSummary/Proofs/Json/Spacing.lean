import DumpSummary.Proofs.Json.ReadBack
import Mathlib.Data.List.Basic

/-!
# The characters of JSON text

The text of a value consists of the characters that ASCII prints, and of line breaks where the layout has lines: what
its strings hold does not show in it otherwise.  Two layouts of a value differ only in the blanks between the tokens,
so they are the same text once the blanks outside of string literals are left out.

## Contents

* `MayStand`, `mem_writeAt`, `mayStand_of_mem_write`: **the characters of a text**;
* `unspaced`: a text without the blanks between its tokens;
* `unspaced_stringLiteral`: a string literal stays as it is;
* `SameTokens`, `unspaced_write`: **two layouts differ only in blanks.**
-/

namespace DumpSummary.Json

variable {l : Layout} {depth : Nat} {c : Char} {v : Value} {vs : List Value}

/-! ## Characters -/

/-- A character that may stand in a text: one that ASCII prints, or a line break if the layout has lines. -/
def MayStand (l : Layout) (c : Char) : Prop := Prints c ∨ c = '\n' ∧ l ≠ .line

theorem prints_of_isDigit (h : c.isDigit = true) : Prints c := by
  simp only [Char.isDigit, Bool.and_eq_true, decide_eq_true_eq] at h
  have hlow : '0'.val ≤ c.val := h.1
  have hhigh : c.val ≤ '9'.val := h.2
  rw [UInt32.le_iff_toNat_le] at hlow hhigh
  exact ⟨Nat.le_trans (by decide) hlow, Nat.lt_of_le_of_lt hhigh (by decide)⟩

/-- A hexadecimal digit is printed, and it is neither a quote nor a backslash. -/
theorem prints_digitChar {d : Nat} (h : d < 16) :
    Prints (Nat.digitChar d) ∧ Nat.digitChar d ≠ '\x22' ∧ Nat.digitChar d ≠ '\\' := by
  have hall : ∀ d < 16, Prints (Nat.digitChar d) ∧ Nat.digitChar d ≠ '\x22' ∧ Nat.digitChar d ≠ '\\' := by decide
  exact hall d h

/-- So are the digits of a unit. -/
theorem prints_of_mem_hexDigits {n : Nat} (hn : n < 0x10000) (h : c ∈ Text.hexDigits 4 n) :
    Prints c ∧ c ≠ '\x22' ∧ c ≠ '\\' := by
  rw [hexDigits_unit hn] at h
  simp only [List.mem_cons, List.not_mem_nil, or_false] at h
  rcases h with rfl | rfl | rfl | rfl
  · exact prints_digitChar (by omega)
  · exact prints_digitChar (by omega)
  · exact prints_digitChar (by omega)
  · exact prints_digitChar (by omega)

theorem prints_of_mem_unitEscape {n : Nat} (hn : n < 0x10000) (h : c ∈ unitEscape n) : Prints c := by
  rcases List.mem_cons.mp h with rfl | h
  · decide
  rcases List.mem_cons.mp h with rfl | h
  · decide
  · exact (prints_of_mem_hexDigits hn h).1

/-- Whatever the character, its escape is printed. -/
theorem prints_of_mem_escapedChar {x : Char} (h : c ∈ escapedChar x) : Prints c := by
  have hescape := escape_escapedChar x
  generalize escapedChar x = es at h hescape
  cases hescape with
  | plain _ _ prints => exact List.mem_singleton.mp h ▸ prints
  | short e prints _ =>
    rcases List.mem_pair.mp h with rfl | rfl
    · decide
    · exact prints
  | unit fits => exact prints_of_mem_unitEscape fits h
  | pair hi lo high low _ =>
    rcases List.mem_append.mp h with h | h
    · exact prints_of_mem_unitEscape (by omega) h
    · exact prints_of_mem_unitEscape (by omega) h

theorem prints_of_mem_stringLiteral {s : String} (h : c ∈ stringLiteral s) : Prints c := by
  have hquote : Prints '\x22' := by decide
  rcases List.mem_append.mp h with h | h
  · rcases List.mem_cons.mp h with rfl | h
    · exact hquote
    · obtain ⟨x, -, hx⟩ := List.mem_flatMap.mp h
      exact prints_of_mem_escapedChar hx
  · exact List.mem_singleton.mp h ▸ hquote

theorem prints_of_mem_integerLiteral {n : Int} (h : c ∈ integerLiteral n) : Prints c := by
  rcases mem_integerLiteral h with hdigit | rfl
  · exact prints_of_isDigit hdigit
  · decide

theorem mayStand_of_mem_edge (h : c ∈ l.edge depth) : MayStand l c := by
  cases l with
  | line => exact (List.not_mem_nil h).elim
  | lines w =>
    rcases List.mem_cons.mp h with rfl | h
    · exact .inr ⟨rfl, by simp⟩
    · exact .inl (List.eq_of_mem_replicate h ▸ by decide)

theorem mayStand_of_mem_separator (h : c ∈ l.separator depth) : MayStand l c := by
  cases l with
  | line =>
    rcases List.mem_pair.mp h with rfl | rfl
    · exact .inl (by decide)
    · exact .inl (by decide)
  | lines w =>
    rcases List.mem_cons.mp h with rfl | h
    · exact .inl (by decide)
    · exact mayStand_of_mem_edge (l := .lines w) h

/-- The characters of the items behind the first. -/
theorem mem_writeItems (h : c ∈ writeItems l depth vs) :
    c ∈ l.separator depth ∨ ∃ v ∈ vs, c ∈ writeAt l depth v := by
  induction vs with
  | nil => exact (List.not_mem_nil h).elim
  | cons v vs ih =>
    simp only [writeItems, List.mem_append] at h
    rcases h with (h | h) | h
    · exact .inl h
    · exact .inr ⟨v, List.mem_cons_self, h⟩
    · rcases ih h with hseparator | ⟨w, hw, hc⟩
      · exact .inl hseparator
      · exact .inr ⟨w, List.mem_cons_of_mem v hw, hc⟩

/-- The characters of the fields behind the first. -/
theorem mem_writeFields {fs : List (String × Value)} (h : c ∈ writeFields l depth fs) :
    c ∈ l.separator depth ∨ ∃ f ∈ fs, c ∈ fieldText l depth f := by
  induction fs with
  | nil => exact (List.not_mem_nil h).elim
  | cons f fs ih =>
    rw [writeFields_cons, List.mem_append, List.mem_append] at h
    rcases h with h | h | h
    · exact .inl h
    · exact .inr ⟨f, List.mem_cons_self, h⟩
    · rcases ih h with hseparator | ⟨g, hg, hc⟩
      · exact .inl hseparator
      · exact .inr ⟨g, List.mem_cons_of_mem f hg, hc⟩

theorem prints_of_mem_fieldName {f : String × Value} (h : c ∈ fieldText l depth f) :
    Prints c ∨ c ∈ writeAt l depth f.2 := by
  unfold fieldText at h
  rcases List.mem_append.mp h with h | h
  · exact .inl (prints_of_mem_stringLiteral h)
  rcases List.mem_append.mp h with h | h
  · rcases List.mem_pair.mp h with rfl | rfl
    · exact .inl (by decide)
    · exact .inl (by decide)
  · exact .inr h

/-- **The characters of a text**, whatever its strings hold. -/
theorem mem_writeAt (l : Layout) (h : Exact v) : ∀ depth, ∀ c ∈ writeAt l depth v, MayStand l c := by
  have hsign : ∀ cs : List Char, (cs.all fun c => decide (Prints c)) = true → ∀ c ∈ cs, MayStand l c := by
    intro cs hs c hc
    exact .inl (of_decide_eq_true (List.all_eq_true.mp hs c hc))
  induction h with
  | null => exact fun _ => hsign "null".toList (by decide)
  | bool b =>
    intro _
    cases b with
    | true => exact hsign "true".toList (by decide)
    | false => exact hsign "false".toList (by decide)
  | int n => exact fun _ c hc => .inl (prints_of_mem_integerLiteral hc)
  | text s => exact fun _ c hc => .inl (prints_of_mem_stringLiteral hc)
  | @list vs _ ih =>
    intro depth c hc
    cases vs with
    | nil => exact hsign ['[', ']'] (by decide) c hc
    | cons v vs =>
      have htext := writeAt_list_append l depth v vs []
      rw [List.append_nil] at htext
      rw [htext] at hc
      simp only [List.mem_cons, List.mem_append, List.not_mem_nil, or_false] at hc
      rcases hc with rfl | hc | hc | hc | hc | rfl
      · exact .inl (by decide)
      · exact mayStand_of_mem_edge hc
      · exact ih v List.mem_cons_self (depth + 1) c hc
      · rcases mem_writeItems hc with hc | ⟨w, hw, hc⟩
        · exact mayStand_of_mem_separator hc
        · exact ih w (List.mem_cons_of_mem v hw) (depth + 1) c hc
      · exact mayStand_of_mem_edge hc
      · exact .inl (by decide)
  | @record fs _ _ ih =>
    intro depth c hc
    cases fs with
    | nil => exact hsign ['\x7b', '\x7d'] (by decide) c hc
    | cons f fs =>
      have hfield : ∀ g ∈ f :: fs, c ∈ fieldText l (depth + 1) g → MayStand l c := fun g hg hc =>
        (prints_of_mem_fieldName hc).elim .inl fun hc => ih g hg (depth + 1) c hc
      have htext := writeAt_record_append l depth f fs []
      rw [List.append_nil] at htext
      rw [htext] at hc
      simp only [List.mem_cons, List.mem_append, List.not_mem_nil, or_false] at hc
      rcases hc with rfl | hc | hc | hc | hc | rfl
      · exact .inl (by decide)
      · exact mayStand_of_mem_edge hc
      · exact hfield f List.mem_cons_self hc
      · rcases mem_writeFields hc with hc | ⟨g, hg, hc⟩
        · exact mayStand_of_mem_separator hc
        · exact hfield g (List.mem_cons_of_mem f hg) hc
      · exact mayStand_of_mem_edge hc
      · exact .inl (by decide)

/-- **A written text** is printed by ASCII but for its line breaks. -/
theorem mayStand_of_mem_write (l : Layout) (h : Exact v) (hc : c ∈ (write l v).toList) : MayStand l c := by
  rw [write, String.toList_ofList] at hc
  exact mem_writeAt l h 0 c hc

/-! ## Blanks between tokens -/

/-- The text without the blanks outside of its string literals; `inside` tells that it begins in one. -/
def unspaced : Bool → List Char → List Char
  | _, [] => []
  | true, '\\' :: c :: cs => '\\' :: c :: unspaced true cs
  | true, c :: cs => c :: unspaced (c != '\x22') cs
  | false, c :: cs => if isSpace c then unspaced false cs else c :: unspaced (c == '\x22') cs

variable {cs rest rest' : List Char}

/-- Blanks between tokens are left out. -/
theorem unspaced_blanks {blanks : List Char} (h : ∀ c ∈ blanks, isSpace c = true) (cs : List Char) :
    unspaced false (blanks ++ cs) = unspaced false cs := by
  induction blanks with
  | nil => rfl
  | cons c blanks ih =>
    rw [List.cons_append, unspaced, if_pos (h c List.mem_cons_self)]
    exact ih fun x hx => h x (List.mem_cons_of_mem c hx)

/-- A token without quotes stays as it is. -/
theorem unspaced_token {t : List Char} (h : ∀ c ∈ t, isSpace c = false ∧ c ≠ '\x22') (cs : List Char) :
    unspaced false (t ++ cs) = t ++ unspaced false cs := by
  induction t with
  | nil => rfl
  | cons c t ih =>
    obtain ⟨hspace, hquote⟩ := h c List.mem_cons_self
    have hrest := ih fun x hx => h x (List.mem_cons_of_mem c hx)
    rw [List.cons_append, unspaced, hspace, beq_false_of_ne hquote, hrest]
    rfl

/-- So do characters inside of a string literal that neither end it nor begin an escape. -/
theorem unspaced_inside {t : List Char} (h : ∀ c ∈ t, c ≠ '\x22' ∧ c ≠ '\\') (cs : List Char) :
    unspaced true (t ++ cs) = t ++ unspaced true cs := by
  induction t with
  | nil => rfl
  | cons c t ih =>
    obtain ⟨hquote, hslash⟩ := h c List.mem_cons_self
    have hrest := ih fun x hx => h x (List.mem_cons_of_mem c hx)
    have hopen : (c != '\x22') = true := bne_iff_ne.mpr hquote
    have hstep : unspaced true (c :: (t ++ cs)) = c :: unspaced (c != '\x22') (t ++ cs) := by
      rw [unspaced]
      intro _ _ he
      exact absurd he hslash
    rw [List.cons_append, hstep, hopen, hrest, List.cons_append]

theorem unspaced_unitEscape {n : Nat} (hn : n < 0x10000) (cs : List Char) :
    unspaced true (unitEscape n ++ cs) = unitEscape n ++ unspaced true cs := by
  have hdigits := unspaced_inside (t := Text.hexDigits 4 n) (fun c hc => (prints_of_mem_hexDigits hn hc).2) cs
  show '\\' :: 'u' :: unspaced true (Text.hexDigits 4 n ++ cs) = _
  rw [hdigits]
  rfl

/-- The escape of a character stays as it is. -/
theorem unspaced_escapedChar (c : Char) (cs : List Char) :
    unspaced true (escapedChar c ++ cs) = escapedChar c ++ unspaced true cs := by
  have hescape := escape_escapedChar c
  generalize escapedChar c = es at hescape ⊢
  cases hescape with
  | plain quote slash _ =>
    refine unspaced_inside (t := [c]) (fun x hx => ?_) cs
    rw [List.mem_singleton.mp hx]
    exact ⟨quote, slash⟩
  | short e _ _ => rfl
  | unit fits => exact unspaced_unitEscape fits cs
  | pair hi lo high low _ =>
    have hhi : hi < 0x10000 := by omega
    have hlo : lo < 0x10000 := by omega
    rw [List.append_assoc, unspaced_unitEscape hhi, unspaced_unitEscape hlo, List.append_assoc]

/-- **A string literal** stays as it is, with all its blanks. -/
theorem unspaced_stringLiteral (s : String) (cs : List Char) :
    unspaced false (stringLiteral s ++ cs) = stringLiteral s ++ unspaced false cs := by
  have hinside : ∀ xs : List Char, unspaced true (xs.flatMap escapedChar ++ '\x22' :: cs)
      = xs.flatMap escapedChar ++ '\x22' :: unspaced false cs := by
    intro xs
    induction xs with
    | nil => rfl
    | cons x xs ih => rw [List.flatMap_cons, List.append_assoc, unspaced_escapedChar, ih, List.append_assoc]
  have htext : ∀ cs, stringLiteral s ++ cs = '\x22' :: (s.toList.flatMap escapedChar ++ '\x22' :: cs) := by
    intro cs
    simp [stringLiteral]
  rw [htext, htext]
  show '\x22' :: unspaced true _ = _
  rw [hinside]

theorem unspaced_integerLiteral (n : Int) (cs : List Char) :
    unspaced false (integerLiteral n ++ cs) = integerLiteral n ++ unspaced false cs := by
  have hdigit : ∀ c : Char, c.isDigit = true ∨ c = '-' → isSpace c = false ∧ c ≠ '\x22' := by
    rintro c (h | rfl)
    · refine ⟨(opens_of_isDigit h).space, ?_⟩
      rintro rfl
      exact absurd h (by decide)
    · decide
  exact unspaced_token (fun c hc => hdigit c (mem_integerLiteral hc)) cs

/-- A sign of the grammar stays as it is. -/
theorem unspaced_sign (hspace : isSpace c = false) (hquote : c ≠ '\x22') (cs : List Char) :
    unspaced false (c :: cs) = c :: unspaced false cs :=
  unspaced_token (t := [c]) (by simpa using ⟨hspace, hquote⟩) cs

theorem unspaced_edge (l : Layout) (depth : Nat) (cs : List Char) :
    unspaced false (l.edge depth ++ cs) = unspaced false cs :=
  unspaced_blanks (fun _ hc => isSpace_of_mem_edge hc) cs

theorem unspaced_separator (l : Layout) (depth : Nat) (cs : List Char) :
    unspaced false (l.separator depth ++ cs) = ',' :: unspaced false cs := by
  rw [separator_eq, List.cons_append, unspaced_sign (by decide) (by decide),
    unspaced_blanks fun _ hc => isSpace_of_mem_gap hc]

/-- Two layouts of the value differ in blanks only, whatever comes behind it. -/
def SameTokens (l l' : Layout) (v : Value) : Prop :=
  ∀ depth rest rest', unspaced false rest = unspaced false rest' →
    unspaced false (writeAt l depth v ++ rest) = unspaced false (writeAt l' depth v ++ rest')

variable {l' : Layout}

/-- Nor does it matter for the items of a list. -/
theorem unspaced_writeItems (h : ∀ v ∈ vs, SameTokens l l' v) (depth : Nat)
    (hrest : unspaced false rest = unspaced false rest') :
    unspaced false (writeItems l depth vs ++ rest) = unspaced false (writeItems l' depth vs ++ rest') := by
  induction vs with
  | nil => exact hrest
  | cons v vs ih =>
    have hitems := ih fun w hw => h w (List.mem_cons_of_mem v hw)
    simp only [writeItems, List.append_assoc]
    rw [unspaced_separator, unspaced_separator, h v List.mem_cons_self depth _ _ hitems]

theorem unspaced_fieldText {f : String × Value} (h : SameTokens l l' f.2) (depth : Nat)
    (hrest : unspaced false rest = unspaced false rest') :
    unspaced false (fieldText l depth f ++ rest) = unspaced false (fieldText l' depth f ++ rest') := by
  have hcolon : ∀ cs, unspaced false (':' :: ' ' :: cs) = ':' :: unspaced false cs := fun _ => rfl
  unfold fieldText
  simp only [List.append_assoc, List.cons_append, List.nil_append]
  rw [unspaced_stringLiteral, unspaced_stringLiteral, hcolon, hcolon, h depth _ _ hrest]

/-- Nor for the fields of a record. -/
theorem unspaced_writeFields {fs : List (String × Value)} (h : ∀ f ∈ fs, SameTokens l l' f.2) (depth : Nat)
    (hrest : unspaced false rest = unspaced false rest') :
    unspaced false (writeFields l depth fs ++ rest) = unspaced false (writeFields l' depth fs ++ rest') := by
  induction fs with
  | nil => exact hrest
  | cons f fs ih =>
    have hfields := ih fun g hg => h g (List.mem_cons_of_mem f hg)
    rw [writeFields_cons, writeFields_cons]
    simp only [List.append_assoc]
    rw [unspaced_separator, unspaced_separator, unspaced_fieldText (h f List.mem_cons_self) depth hfields]

/-- **Two layouts of a value** differ in blanks only. -/
theorem sameTokens_writeAt (l l' : Layout) (h : Exact v) : SameTokens l l' v := by
  have hword : ∀ token : List Char, (token.all fun c => !isSpace c && c != '\x22') = true → ∀ rest rest',
      unspaced false rest = unspaced false rest' →
        unspaced false (token ++ rest) = unspaced false (token ++ rest') := by
    intro token htoken rest rest' hrest
    have hplain : ∀ c ∈ token, isSpace c = false ∧ c ≠ '\x22' := by simpa using htoken
    rw [unspaced_token hplain, unspaced_token hplain, hrest]
  -- along the value: the texts behind it differ in blanks, too, so that it can be cut at any place
  induction h with
  | null => exact fun _ => hword "null".toList (by decide)
  | bool b =>
    intro _
    cases b with
    | true => exact hword "true".toList (by decide)
    | false => exact hword "false".toList (by decide)
  | int n =>
    intro _ rest rest' hrest
    exact (unspaced_integerLiteral n rest).trans (hrest ▸ (unspaced_integerLiteral n rest').symm)
  | text s =>
    intro _ rest rest' hrest
    exact (unspaced_stringLiteral s rest).trans (hrest ▸ (unspaced_stringLiteral s rest').symm)
  | @list vs _ ih =>
    intro depth rest rest' hrest
    cases vs with
    | nil => exact hword ['[', ']'] (by decide) rest rest' hrest
    | cons v vs =>
      have hclose : unspaced false (l.edge depth ++ ']' :: rest) = unspaced false (l'.edge depth ++ ']' :: rest') := by
        rw [unspaced_edge, unspaced_edge, unspaced_sign (by decide) (by decide), hrest,
          unspaced_sign (by decide) (by decide)]
      have hitems := unspaced_writeItems (fun w hw => ih w (List.mem_cons_of_mem v hw)) (depth + 1) hclose
      rw [writeAt_list_append, writeAt_list_append, unspaced_sign (by decide) (by decide),
        unspaced_sign (by decide) (by decide), unspaced_edge, unspaced_edge,
        ih v List.mem_cons_self (depth + 1) _ _ hitems]
  | @record fs _ _ ih =>
    intro depth rest rest' hrest
    cases fs with
    | nil => exact hword ['\x7b', '\x7d'] (by decide) rest rest' hrest
    | cons f fs =>
      have hclose : unspaced false (l.edge depth ++ '\x7d' :: rest)
          = unspaced false (l'.edge depth ++ '\x7d' :: rest') := by
        rw [unspaced_edge, unspaced_edge, unspaced_sign (by decide) (by decide), hrest,
          unspaced_sign (by decide) (by decide)]
      have hfields := unspaced_writeFields (fun g hg => ih g (List.mem_cons_of_mem f hg)) (depth + 1) hclose
      rw [writeAt_record_append, writeAt_record_append, unspaced_sign (by decide) (by decide),
        unspaced_sign (by decide) (by decide), unspaced_edge, unspaced_edge,
        unspaced_fieldText (ih f List.mem_cons_self) (depth + 1) hfields]

/-- **Two layouts of a text** are the same once the blanks outside of string literals are left out. -/
theorem unspaced_write (l l' : Layout) (h : Exact v) :
    unspaced false (write l v).toList = unspaced false (write l' v).toList := by
  have htokens := sameTokens_writeAt l l' h 0 [] [] rfl
  rw [write, write, String.toList_ofList, String.toList_ofList]
  simpa using htokens

end DumpSummary.Json
