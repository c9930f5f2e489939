import DumpSummary.Json.Reader
import DumpSummary.Json.Writer
import Mathlib.Data.List.TakeWhile

/-!
# JSON literals, read back

A literal is read back as what it was written for, whatever comes after it.  A string is read character by character:
each escape is read as the one character that it stands for, two escapes as one where they are the halves of a
surrogate pair.  A number ends where no digit follows.

## Contents

* `readUnit_hexDigits`: the four digits of a unit;
* `Prints`, `Escape`, `escape_escapedChar`: what a character is written as;
* `readChar_escapedChar`: **a character is read back from its escape**;
* `readString_stringLiteral`: strings;
* `Ends`, `readNumber_integerLiteral`: whole numbers.
-/

namespace DumpSummary.Json

/-! ## Units -/

/-- A hexadecimal digit is read as its value. -/
theorem hexDigit?_digitChar {d : Nat} (h : d < 16) : hexDigit? (Nat.digitChar d) = some d := by
  have hall : ∀ d < 16, hexDigit? (Nat.digitChar d) = some d := by decide
  exact hall d h

/-- The four digits of a unit. -/
theorem hexDigits_unit {n : Nat} (h : n < 0x10000) :
    Text.hexDigits 4 n = [Nat.digitChar (n / 4096), Nat.digitChar (n / 256 % 16), Nat.digitChar (n / 16 % 16),
      Nat.digitChar (n % 16)] := by
  have hbase : ∀ m, 16 ≤ m → Nat.toDigits 16 m = Nat.toDigits 16 (m / 16) ++ [Nat.digitChar (m % 16)] := fun m hm =>
    Nat.toDigits_of_base_le (by decide) hm
  have hsmall : ∀ m, m < 16 → Nat.toDigits 16 m = [Nat.digitChar m] := fun m hm => Nat.toDigits_of_lt_base hm
  unfold Text.hexDigits
  -- by the number of digits that are not padding
  rcases Nat.lt_or_ge n 16 with h1 | h1
  · have h0 : n / 4096 = 0 ∧ n / 256 % 16 = 0 ∧ n / 16 % 16 = 0 ∧ n % 16 = n := by omega
    rw [hsmall n h1, h0.1, h0.2.1, h0.2.2.1, h0.2.2.2]
    rfl
  rcases Nat.lt_or_ge n 256 with h2 | h2
  · have h0 : n / 4096 = 0 ∧ n / 256 % 16 = 0 ∧ n / 16 % 16 = n / 16 := by omega
    rw [hbase n h1, hsmall (n / 16) (by omega), h0.1, h0.2.1, h0.2.2]
    rfl
  rcases Nat.lt_or_ge n 4096 with h3 | h3
  · have h0 : n / 4096 = 0 ∧ n / 16 / 16 = n / 256 ∧ n / 256 % 16 = n / 256 := by omega
    rw [hbase n h1, hbase (n / 16) (by omega), hsmall (n / 16 / 16) (by omega), h0.1, h0.2.1, h0.2.2]
    rfl
  · have h0 : n / 16 / 16 = n / 256 ∧ n / 256 / 16 = n / 4096 := by omega
    rw [hbase n h1, hbase (n / 16) (by omega), hbase (n / 16 / 16) (by omega),
      hsmall (n / 16 / 16 / 16) (by omega), h0.1, h0.2]
    rfl

/-- **A unit** is read back from its digits. -/
theorem readUnit_hexDigits {n : Nat} (h : n < 0x10000) (rest : List Char) :
    readUnit (Text.hexDigits 4 n ++ rest) = some (n, rest) := by
  have hvalue : 4096 * (n / 4096) + 256 * (n / 256 % 16) + 16 * (n / 16 % 16) + n % 16 = n := by omega
  rw [hexDigits_unit h]
  show (do
    return (4096 * (← hexDigit? (Nat.digitChar (n / 4096))) + 256 * (← hexDigit? (Nat.digitChar (n / 256 % 16)))
      + 16 * (← hexDigit? (Nat.digitChar (n / 16 % 16))) + (← hexDigit? (Nat.digitChar (n % 16))), rest)) = _
  rw [hexDigit?_digitChar (by omega), hexDigit?_digitChar (by omega), hexDigit?_digitChar (by omega),
    hexDigit?_digitChar (by omega)]
  exact congrArg (fun m => some (m, rest)) hvalue

/-! ## Escapes -/

/-- A character that ASCII prints. -/
def Prints (c : Char) : Prop := 32 ≤ c.toNat ∧ c.toNat < 127

/-- It can be tested. -/
instance (c : Char) : Decidable (Prints c) := by
  unfold Prints
  infer_instance

/-- What a character is written as: itself, a backslash and a letter, or the digits of one unit or of two. -/
inductive Escape (c : Char) : List Char → Prop
  /-- The character itself. -/
  | plain (quote : c ≠ '\x22') (slash : c ≠ '\\') (prints : Prints c) : Escape c [c]
  /-- A backslash and the letter that stands for the character. -/
  | short (e : Char) (prints : Prints e) (stands : shortEscape? e = some c) : Escape c ['\\', e]
  /-- One unit, which is no half of a pair. -/
  | unit (fits : c.toNat < 0x10000) : Escape c (unitEscape c.toNat)
  /-- The two halves of a pair. -/
  | pair (hi lo : Nat) (high : 0xd800 ≤ hi ∧ hi < 0xdc00) (low : 0xdc00 ≤ lo ∧ lo < 0xe000)
      (value : 0x10000 + (hi - 0xd800) * 0x400 + (lo - 0xdc00) = c.toNat) :
      Escape c (unitEscape hi ++ unitEscape lo)

/-- The code points of characters leave out the halves of surrogate pairs. -/
theorem toNat_cases (c : Char) : c.toNat < 0xd800 ∨ (0xe000 ≤ c.toNat ∧ c.toNat < 0x110000) := by
  rcases c.valid with h | h
  · exact .inl h
  · exact .inr ⟨h.1, h.2⟩

/-- **Every character** is written in one of these ways. -/
theorem escape_escapedChar (c : Char) : Escape c (escapedChar c) := by
  have hcode := toNat_cases c
  have heq : ∀ {n : Nat}, (c.toNat == n) = true → c = Char.ofNat n := by
    intro n h
    rw [← eq_of_beq h, Char.ofNat_toNat]
  unfold escapedChar
  dsimp only
  split
  case isTrue h => exact .short _ (by decide) (by rw [eq_of_beq h]; rfl)
  case isFalse hquote =>
  split
  case isTrue h => exact .short _ (by decide) (by rw [eq_of_beq h]; rfl)
  case isFalse hslash =>
  split
  case isTrue h => exact .short _ (by decide) (by rw [heq h]; rfl)
  split
  case isTrue h => exact .short _ (by decide) (by rw [heq h]; rfl)
  split
  case isTrue h => exact .short _ (by decide) (by rw [heq h]; rfl)
  split
  case isTrue h => exact .short _ (by decide) (by rw [heq h]; rfl)
  split
  case isTrue h => exact .short _ (by decide) (by rw [heq h]; rfl)
  split
  case isTrue h =>
    have hprints : 32 ≤ c.toNat ∧ c.toNat < 127 := by simpa using h
    exact .plain (fun he => hquote (beq_iff_eq.mpr he)) (fun he => hslash (beq_iff_eq.mpr he)) hprints
  split
  case isTrue h => exact .unit h
  case isFalse =>
    -- beyond the first plane: the code point is put together again from the two halves
    exact .pair _ _ (by omega) (by omega) (by omega)

/-! ## Characters -/

/-- A character that has no escape is read as itself. -/
theorem readChar_plain {c : Char} (hslash : c ≠ '\\') (hprints : Prints c) (rest : List Char) :
    readChar (c :: rest) = some (c, rest) := by
  have hcontrol : ¬ c.toNat < 32 := Nat.not_lt.mpr hprints.1
  unfold readChar
  dsimp only
  rw [if_pos hslash, if_neg hcontrol]

/-- A short escape is read as the character that it stands for. -/
theorem readChar_short {e c : Char} (h : shortEscape? e = some c) (rest : List Char) :
    readChar ('\\' :: e :: rest) = some (c, rest) := by
  have hu : e ≠ 'u' := by
    rintro rfl
    cases h
  unfold readChar
  simp [hu, h]

/-- One unit that is no half of a pair is read as a character. -/
theorem readChar_unit {n : Nat} (h : n < 0xd800 ∨ 0xe000 ≤ n) (hn : n < 0x10000) (rest : List Char) :
    readChar (unitEscape n ++ rest) = some (Char.ofNat n, rest) := by
  have htest : (decide (n < 0xd800) || decide (0xe000 ≤ n)) = true := by simpa using h
  show readChar ('\\' :: 'u' :: (Text.hexDigits 4 n ++ rest)) = _
  unfold readChar
  simp only [ne_eq, not_true_eq_false, if_false, readUnit_hexDigits hn, htest, if_true]

/-- Two units that are the halves of a pair are read as one character. -/
theorem readChar_pair {hi lo : Nat} (hhi : 0xd800 ≤ hi ∧ hi < 0xdc00) (hlo : 0xdc00 ≤ lo ∧ lo < 0xe000)
    (rest : List Char) :
    readChar (unitEscape hi ++ (unitEscape lo ++ rest))
      = some (Char.ofNat (0x10000 + (hi - 0xd800) * 0x400 + (lo - 0xdc00)), rest) := by
  have htest : (decide (hi < 0xd800) || decide (0xe000 ≤ hi)) = false := by simp; omega
  have hpair : (decide (hi < 0xdc00) && decide (0xdc00 ≤ lo) && decide (lo < 0xe000)) = true := by simp; omega
  show readChar ('\\' :: 'u' :: (Text.hexDigits 4 hi ++ ('\\' :: 'u' :: (Text.hexDigits 4 lo ++ rest)))) = _
  unfold readChar
  simp only [ne_eq, not_true_eq_false, if_false, readUnit_hexDigits (show hi < 0x10000 by omega),
    readUnit_hexDigits (show lo < 0x10000 by omega), htest, hpair, Bool.false_eq_true, if_true]

/-- **A character** is read back from its escape. -/
theorem readChar_escapedChar (c : Char) (rest : List Char) : readChar (escapedChar c ++ rest) = some (c, rest) := by
  have hescape := escape_escapedChar c
  generalize escapedChar c = es at hescape ⊢
  cases hescape with
  | plain _ slash prints => exact readChar_plain slash prints rest
  | short e _ stands => exact readChar_short stands rest
  | unit fits =>
    have hsingle : c.toNat < 0xd800 ∨ 0xe000 ≤ c.toNat := (toNat_cases c).imp_right And.left
    rw [readChar_unit hsingle fits, Char.ofNat_toNat]
  | pair hi lo high low value => rw [List.append_assoc, readChar_pair high low, value, Char.ofNat_toNat]

/-! ## Strings -/

/-- The escape of a character begins with no quote. -/
theorem exists_head_escapedChar (c : Char) : ∃ e es, escapedChar c = e :: es ∧ e ≠ '\x22' := by
  have h := escape_escapedChar c
  cases hes : escapedChar c with
  | nil =>
    rw [hes] at h
    cases h
  | cons e es =>
    rw [hes] at h
    refine ⟨e, es, rfl, ?_⟩
    cases h with
    | plain quote _ _ => exact quote
    | short _ _ _ => decide
    | unit _ => decide
    | pair _ _ _ _ _ => decide

theorem length_escapedChar_pos (c : Char) : 0 < (escapedChar c).length := by
  obtain ⟨e, es, h, -⟩ := exists_head_escapedChar c
  rw [h]
  exact Nat.succ_pos _

/-- One character more inside a string. -/
theorem readStringLoop_escapedChar (fuel : Nat) (done : List Char) (c : Char) (rest : List Char) :
    readStringLoop (fuel + 1) done (escapedChar c ++ rest) = readStringLoop fuel (c :: done) rest := by
  have hread := readChar_escapedChar c rest
  obtain ⟨e, es, h, hne⟩ := exists_head_escapedChar c
  rw [h, List.cons_append] at hread ⊢
  rw [readStringLoop]
  · rw [hread]
  · intro tail htail
    exact hne (List.cons.inj htail).1

/-- The rest of a string, up to its closing quote. -/
theorem readStringLoop_flatMap (cs done rest : List Char) {fuel : Nat} (h : cs.length < fuel) :
    readStringLoop fuel done (cs.flatMap escapedChar ++ '\x22' :: rest)
      = some (String.ofList (done.reverse ++ cs), rest) := by
  induction cs generalizing fuel done with
  | nil =>
    obtain ⟨fuel, rfl⟩ := Nat.exists_eq_add_one_of_ne_zero (Nat.ne_of_gt h)
    show some (String.ofList done.reverse, rest) = _
    rw [List.append_nil]
  | cons c cs ih =>
    obtain ⟨fuel, rfl⟩ := Nat.exists_eq_add_one_of_ne_zero (Nat.ne_of_gt (Nat.zero_lt_of_lt h))
    rw [List.flatMap_cons, List.append_assoc, readStringLoop_escapedChar, ih _ (Nat.lt_of_succ_lt_succ h)]
    simp

theorem length_le_flatMap_escapedChar (cs : List Char) : cs.length ≤ (cs.flatMap escapedChar).length := by
  induction cs with
  | nil => exact Nat.zero_le _
  | cons c cs ih =>
    have hpos := length_escapedChar_pos c
    rw [List.flatMap_cons, List.length_append, List.length_cons]
    omega

/-- **A string** is read back from its literal. -/
theorem readString_stringLiteral (s : String) (rest : List Char) :
    readString (s.toList.flatMap escapedChar ++ '\x22' :: rest) = some (s, rest) := by
  have hlength := length_le_flatMap_escapedChar s.toList
  unfold readString
  rw [readStringLoop_flatMap s.toList [] rest]
  · rw [List.reverse_nil, List.nil_append, String.ofList_toList]
  · rw [List.length_append]
    omega

/-! ## Whole numbers -/

/-- The character goes on with no number. -/
def EndsNumber (c : Char) : Prop := c.isDigit = false ∧ c ≠ '.' ∧ c ≠ 'e' ∧ c ≠ 'E'

/-- It can be tested. -/
instance (c : Char) : Decidable (EndsNumber c) := by
  unfold EndsNumber
  infer_instance

/-- Nothing at the head of the text goes on with a number. -/
def Ends : List Char → Prop
  | [] => True
  | c :: _ => EndsNumber c

theorem ends_cons {c : Char} (h : EndsNumber c) (cs : List Char) : Ends (c :: cs) := h

variable {rest : List Char}

/-- Digits are read up to the end of the number. -/
theorem takeWhile_isDigit_append (h : Ends rest) {ds : List Char} (hds : ∀ c ∈ ds, c.isDigit = true) :
    (ds ++ rest).takeWhile Char.isDigit = ds ∧ (ds ++ rest).dropWhile Char.isDigit = rest := by
  rw [List.takeWhile_append_of_pos hds, List.dropWhile_append_of_pos hds]
  cases rest with
  | nil => simp
  | cons c cs =>
    have hc : ¬ c.isDigit = true := by rw [h.1]; decide
    rw [List.takeWhile_cons_of_neg hc, List.dropWhile_cons_of_neg hc, List.append_nil]
    exact ⟨rfl, rfl⟩

/-- There is no fraction at the end of a number. -/
theorem readFraction_of_ends (h : Ends rest) : readFraction rest = some ([], rest) := by
  cases rest with
  | nil => rfl
  | cons c cs =>
    unfold readFraction
    split
    · rename_i heq
      exact absurd (List.cons.inj heq).1 h.2.1
    · rfl

/-- There is no exponent either. -/
theorem readExponent_of_ends (h : Ends rest) : readExponent rest = some (none, rest) := by
  cases rest with
  | nil => rfl
  | cons c cs =>
    have hne : (c == 'e' || c == 'E') = false := by simp [h.2.2.1, h.2.2.2]
    unfold readExponent
    simp only [hne, Bool.false_eq_true, if_false]

/-- Only zero is written with a leading zero. -/
theorem head_toDigits_ne_zero (n : Nat) (hn : n ≠ 0) : ∃ d ds, Nat.toDigits 10 n = d :: ds ∧ d ≠ '0' := by
  induction n using Nat.strong_induction_on with
  | h n ih =>
    rcases Nat.lt_or_ge n 10 with hlt | hge
    · have hall : ∀ m < 10, m ≠ 0 → Nat.digitChar m ≠ '0' := by decide
      exact ⟨Nat.digitChar n, [], Nat.toDigits_of_lt_base hlt, hall n hlt hn⟩
    · obtain ⟨d, ds, hd, hne⟩ := ih (n / 10) (by omega) (by omega)
      refine ⟨d, ds ++ [Nat.digitChar (n % 10)], ?_, hne⟩
      rw [Nat.toDigits_of_base_le (by decide) hge, hd, List.cons_append]

/-- The digits of a number have no needless zero at their head. -/
theorem toDigits_ne_zero_cons (n : Nat) (c : Char) (cs : List Char) : Nat.toDigits 10 n ≠ '0' :: c :: cs := by
  intro h
  by_cases hn : n = 0
  · subst hn
    exact absurd h (by simp [Nat.toDigits_of_lt_base])
  · obtain ⟨d, ds, hd, hne⟩ := head_toDigits_ne_zero n hn
    rw [hd] at h
    exact hne (List.cons.inj h).1

theorem isDigit_of_mem_toDigits {n : Nat} {c : Char} (h : c ∈ Nat.toDigits 10 n) : c.isDigit = true :=
  Nat.isDigit_of_mem_toDigits (by decide) (by decide) h

/-- The digits of a number are read back as the number. -/
theorem digitsValue_toDigits (n : Nat) : digitsValue (Nat.toDigits 10 n) = n :=
  Nat.ofDigitChars_ten_toDigits

/-- A number without a sign begins with a digit. -/
theorem exists_head_toDigits (n : Nat) : ∃ d ds, Nat.toDigits 10 n = d :: ds ∧ d.isDigit = true := by
  cases h : Nat.toDigits 10 n with
  | nil => exact absurd h Nat.toDigits_ne_nil
  | cons d ds => exact ⟨d, ds, rfl, isDigit_of_mem_toDigits (h ▸ List.mem_cons_self)⟩

/-- **Digits** are read as their number, with or without a minus sign. -/
theorem readNumber_digits (h : Ends rest) (n : Nat) :
    readNumber (Nat.toDigits 10 n ++ rest) = some (.int n, rest)
      ∧ readNumber ('-' :: (Nat.toDigits 10 n ++ rest)) = some (.int (-n), rest) := by
  have hdigits : ∀ c ∈ Nat.toDigits 10 n, c.isDigit = true := fun c hc => isDigit_of_mem_toDigits hc
  obtain ⟨htake, hdrop⟩ := takeWhile_isDigit_append h hdigits
  have hfraction := readFraction_of_ends h
  have hexponent := readExponent_of_ends h
  have hvalue := digitsValue_toDigits n
  have hzero := toDigits_ne_zero_cons n
  obtain ⟨d, ds, hd, hdigit⟩ := exists_head_toDigits n
  have hsign : d ≠ '-' := by
    rintro rfl
    exact absurd hdigit (by decide)
  rw [hd] at htake hdrop hvalue hzero ⊢
  rw [List.cons_append] at htake hdrop ⊢
  constructor
  · simp [readNumber, hsign, htake, hdrop, hvalue, hfraction, hexponent]
  · simp [readNumber, htake, hdrop, hvalue, hfraction, hexponent]

/-- **A whole number** is read back from its literal. -/
theorem readNumber_integerLiteral (h : Ends rest) (n : Int) :
    readNumber (integerLiteral n ++ rest) = some (.int n, rest) := by
  unfold integerLiteral
  split
  · rename_i hneg
    rw [List.cons_append, (readNumber_digits h n.natAbs).2]
    have hvalue : -(n.natAbs : Int) = n := by omega
    rw [hvalue]
  · rename_i hpos
    rw [(readNumber_digits h n.natAbs).1]
    have hvalue : (n.natAbs : Int) = n := by omega
    rw [hvalue]

/-- A whole number is written in digits and possibly a minus sign. -/
theorem mem_integerLiteral {n : Int} {c : Char} (h : c ∈ integerLiteral n) : c.isDigit = true ∨ c = '-' := by
  unfold integerLiteral at h
  split at h
  · rcases List.mem_cons.mp h with rfl | h
    · exact .inr rfl
    · exact .inl (isDigit_of_mem_toDigits h)
  · exact .inl (isDigit_of_mem_toDigits h)

/-- A whole number begins with a digit or with a minus sign. -/
theorem exists_head_integerLiteral (n : Int) :
    ∃ c cs, integerLiteral n = c :: cs ∧ (c.isDigit = true ∨ c = '-') := by
  cases h : integerLiteral n with
  | nil =>
    unfold integerLiteral at h
    split at h
    · cases h
    · exact absurd h Nat.toDigits_ne_nil
  | cons c cs => exact ⟨c, cs, rfl, mem_integerLiteral (h ▸ List.mem_cons_self)⟩

end DumpSummary.Json
