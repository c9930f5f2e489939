import DumpSummary.Text.Utf8
import Mathlib.Algebra.GroupWithZero.Nat

/-!
# UTF-8 is read back

The bytes of a text in UTF-8 are well formed, and they are read as the text.  The first byte of a character says how
many bytes continue it and in which range the next one lies; each of them brings six bits of the code.

## Contents

* `continuing`, `tail`: the bytes that continue a code;
* `Sequence.Expects`: a sequence that has begun and that bytes of a code complete;
* `decodeFrom_continuing`, `decodeFrom_tail`: one byte, and all bytes that are missing;
* `exists_beginning`, `decodeFrom_encodeChar`: the first byte of a character, and all of its bytes;
* `decode_flatMap`: **the bytes of characters are read as these characters**;
* `toList_toUTF8`, `decode_toUTF8`: the bytes of a text.
-/

namespace DumpSummary.Text.Utf8

variable {p k v : Nat} {s : Sequence} {bs : Bytes}

/-! ## Bytes that continue a sequence -/

/-- The byte that continues a code and that `k` more bytes follow. -/
def continuing (v k : Nat) : Nat := v / 64 ^ k % 64 + 0x80

/-- The last `k` bytes of a code. -/
def tail (v : Nat) : Nat → Bytes
  | 0 => []
  | k + 1 => UInt8.ofNat (continuing v k) :: tail v k

theorem continuing_lt (v k : Nat) : continuing v k < 0xc0 := by
  unfold continuing
  omega

theorem toNat_continuing (v k : Nat) : (UInt8.ofNat (continuing v k)).toNat = continuing v k := by
  have hlt := continuing_lt v k
  rw [UInt8.toNat_ofNat']
  omega

/-- The last `k + 1` bytes of a code complete a sequence that has begun. -/
structure Sequence.Expects (s : Sequence) (v k : Nat) : Prop where
  /-- So many bytes are missing. -/
  missing : s.missing = k + 1
  /-- What is read so far is the beginning of the code. -/
  code : s.code = v / 64 ^ (k + 1)
  /-- The next byte is not too small. -/
  low : s.low ≤ continuing v k
  /-- The next byte is not too large. -/
  high : continuing v k ≤ s.high

/-- The code with six more bits. -/
theorem code_continuing (v k : Nat) : 64 * (v / 64 ^ (k + 1)) + continuing v k % 64 = v / 64 ^ k := by
  unfold continuing
  rw [Nat.pow_succ, ← Nat.div_div_eq_div_mul]
  omega

/-- The last byte of a sequence completes a character. -/
theorem decodeFrom_continuing_last (h : s.Expects v 0) :
    decodeFrom p (some s) (UInt8.ofNat (continuing v 0) :: bs)
      = (decodeFrom (p + 1) none bs).map (Char.ofNat v :: ·) := by
  have hcode := code_continuing v 0
  rw [← h.code, Nat.pow_zero, Nat.div_one] at hcode
  rw [decodeFrom, toNat_continuing, hcode]
  simp [h.low, h.high, h.missing]

/-- **Another byte of a sequence** leaves one that expects the bytes after it. -/
theorem decodeFrom_continuing (p : Nat) (bs : Bytes) (h : s.Expects v (k + 1)) :
    ∃ s' : Sequence, s'.Expects v k ∧
      decodeFrom p (some s) (UInt8.ofNat (continuing v (k + 1)) :: bs) = decodeFrom (p + 1) (some s') bs := by
  have hcode := code_continuing v (k + 1)
  rw [← h.code] at hcode
  refine ⟨{ s with code := v / 64 ^ (k + 1), missing := k + 1, low := 0x80, high := 0xbf }, ⟨rfl, rfl, ?_, ?_⟩, ?_⟩
  · exact Nat.le_add_left _ _
  · exact Nat.le_of_lt_succ (continuing_lt v k)
  · rw [decodeFrom, toNat_continuing, hcode]
    simp [h.low, h.high, h.missing]

/-- **The bytes that are missing** complete a character. -/
theorem decodeFrom_tail (h : s.Expects v k) :
    decodeFrom p (some s) (tail v (k + 1) ++ bs)
      = (decodeFrom (p + (k + 1)) none bs).map (Char.ofNat v :: ·) := by
  -- over the bytes that are missing; each of them leaves a sequence that expects the rest
  induction k generalizing p s with
  | zero => exact decodeFrom_continuing_last h
  | succ k ih =>
    obtain ⟨s', hs', hstep⟩ := decodeFrom_continuing p (tail v (k + 1) ++ bs) h
    rw [tail, List.cons_append, hstep, ih hs', Nat.add_right_comm p 1 (k + 1)]
    rfl

/-! ## Characters -/

/-- The first byte of a character of two bytes. -/
theorem beginning_two (p : Nat) (hlow : 0x7f < v) (hhigh : v ≤ 0x7ff) :
    ∃ s : Sequence, beginning p (UInt8.ofNat (v / 64 % 0x20 + 0xc0)) = .sequence s ∧ s.Expects v 0 := by
  have hlead : (UInt8.ofNat (v / 64 % 0x20 + 0xc0)).toNat = v / 64 + 0xc0 := by
    rw [UInt8.toNat_ofNat']
    omega
  generalize UInt8.ofNat (v / 64 % 0x20 + 0xc0) = b at hlead ⊢
  refine ⟨⟨b, p, v / 64, 1, 0x80, 0xbf⟩, ?_, rfl, rfl, ?_, ?_⟩
  · unfold beginning
    rw [hlead, if_neg (by omega), if_neg (by omega), if_pos (by omega), Nat.add_sub_cancel]
  · exact Nat.le_add_left _ _
  · exact Nat.le_of_lt_succ (continuing_lt v 0)

/-- The first byte of a character of three bytes.  What follows the least one is no overlong form, and what follows
the one of U+D000 is no surrogate. -/
theorem beginning_three (p : Nat) (hlow : 0x7ff < v) (hhigh : v ≤ 0xffff) (hvalid : v < 0xd800 ∨ 0xdfff < v) :
    ∃ s : Sequence, beginning p (UInt8.ofNat (v / 4096 % 0x10 + 0xe0)) = .sequence s ∧ s.Expects v 1 := by
  have hlead : (UInt8.ofNat (v / 4096 % 0x10 + 0xe0)).toNat = v / 4096 + 0xe0 := by
    rw [UInt8.toNat_ofNat']
    omega
  generalize UInt8.ofNat (v / 4096 % 0x10 + 0xe0) = b at hlead ⊢
  refine ⟨⟨b, p, v / 4096, 2, if v / 4096 = 0 then 0xa0 else 0x80, if v / 4096 = 13 then 0x9f else 0xbf⟩,
    ?_, rfl, rfl, ?_, ?_⟩
  · unfold beginning
    rw [hlead, if_neg (by omega), if_neg (by omega), if_neg (by omega)]
    -- the two first bytes with a range of their own, and all others
    by_cases hzero : v / 4096 = 0
    · simp [hzero]
    · by_cases hsurrogate : v / 4096 = 13
      · simp [hsurrogate]
      · have hthree : ¬ 16 ≤ v / 4096 := by omega
        simp [hzero, hsurrogate, hthree]
  · -- a smaller code has only two bytes
    unfold continuing
    dsimp only
    split <;> omega
  · -- a surrogate is no character
    unfold continuing
    dsimp only
    split <;> omega

/-- The first byte of a character of four bytes.  What follows the least one is no overlong form, and what follows
the greatest one ends at U+10FFFF. -/
theorem beginning_four (p : Nat) (hlow : 0xffff < v) (hhigh : v < 0x110000) :
    ∃ s : Sequence, beginning p (UInt8.ofNat (v / 262144 % 0x08 + 0xf0)) = .sequence s ∧ s.Expects v 2 := by
  have hlead : (UInt8.ofNat (v / 262144 % 0x08 + 0xf0)).toNat = v / 262144 + 0xf0 := by
    rw [UInt8.toNat_ofNat']
    omega
  generalize UInt8.ofNat (v / 262144 % 0x08 + 0xf0) = b at hlead ⊢
  refine ⟨⟨b, p, v / 262144, 3, if v / 262144 = 0 then 0x90 else 0x80, if v / 262144 = 4 then 0x8f else 0xbf⟩,
    ?_, rfl, rfl, ?_, ?_⟩
  · unfold beginning
    rw [hlead, if_neg (by omega), if_neg (by omega), if_neg (by omega)]
    have hthree : ((v / 262144 + 0xf0 == 0xe0) = false) ∧ ((v / 262144 + 0xf0 == 0xed) = false) := by
      simp only [beq_eq_false_iff_ne]
      omega
    simp only [hthree, Bool.false_eq_true, if_false]
    rw [if_neg (by omega)]
    by_cases hzero : v / 262144 = 0
    · simp [hzero]
    · by_cases hgreatest : v / 262144 = 4
      · simp [hgreatest]
      · have hlt : v / 262144 + 0xf0 < 0xf4 := by omega
        simp [hzero, hgreatest, hlt]
  · -- a smaller code has only three bytes
    unfold continuing
    dsimp only
    split <;> omega
  · -- no code is greater than U+10FFFF
    unfold continuing
    dsimp only
    split <;> omega

/-- **A character of more than one byte** has a first byte that begins a sequence, and its other bytes complete it. -/
theorem exists_beginning (p : Nat) {c : Char} (hc : 0x7f < c.toNat) :
    ∃ lead k s, String.utf8EncodeChar c = lead :: tail c.toNat (k + 1) ∧ beginning p lead = .sequence s ∧
      s.Expects c.toNat k := by
  have hvalid : c.toNat < 0xd800 ∨ 0xdfff < c.toNat ∧ c.toNat < 0x110000 := c.valid
  have htoNat : c.val.toNat = c.toNat := rfl
  unfold String.utf8EncodeChar
  dsimp only
  rw [htoNat, if_neg (Nat.not_le.mpr hc)]
  split
  · rename_i htwo
    obtain ⟨s, hbegin, hexpects⟩ := beginning_two p hc htwo
    exact ⟨_, 0, s, by simp [tail, continuing], hbegin, hexpects⟩
  · rename_i htwo
    split
    · rename_i hthree
      obtain ⟨s, hbegin, hexpects⟩ := beginning_three p (Nat.not_le.mp htwo) hthree (hvalid.imp_right And.left)
      exact ⟨_, 1, s, by simp [tail, continuing], hbegin, hexpects⟩
    · rename_i hthree
      have hlarge : 0xffff < c.toNat := Nat.not_le.mp hthree
      obtain ⟨s, hbegin, hexpects⟩ := beginning_four p hlarge (by omega)
      exact ⟨_, 2, s, by simp [tail, continuing], hbegin, hexpects⟩

/-- **The bytes of a character** are read as this character. -/
theorem decodeFrom_encodeChar (p : Nat) (c : Char) (bs : Bytes) :
    ∃ q, decodeFrom p none (String.utf8EncodeChar c ++ bs) = (decodeFrom q none bs).map (c :: ·) := by
  rcases Nat.lt_or_ge 0x7f c.toNat with hlong | hshort
  · obtain ⟨lead, k, s, hencode, hbegin, hexpects⟩ := exists_beginning p hlong
    refine ⟨p + 1 + (k + 1), ?_⟩
    rw [hencode, List.cons_append, decodeFrom, hbegin]
    dsimp only
    rw [decodeFrom_tail hexpects, Char.ofNat_toNat]
  · have hencode : String.utf8EncodeChar c = [UInt8.ofNat c.toNat] := if_pos hshort
    have hbyte : (UInt8.ofNat c.toNat).toNat = c.toNat := by
      rw [UInt8.toNat_ofNat']
      omega
    have hbegin : beginning p (UInt8.ofNat c.toNat) = .whole c := by
      unfold beginning
      rw [hbyte, if_pos (Nat.lt_succ_of_le hshort), Char.ofNat_toNat]
    refine ⟨p + 1, ?_⟩
    rw [hencode, List.singleton_append, decodeFrom, hbegin]

/-! ## Texts -/

/-- **The bytes of characters are read as these characters.** -/
theorem decode_flatMap (p : Nat) (cs : List Char) : decode p (cs.flatMap String.utf8EncodeChar) = .ok cs := by
  unfold decode
  induction cs generalizing p with
  | nil => rfl
  | cons c cs ih =>
    obtain ⟨q, hchar⟩ := decodeFrom_encodeChar p c (cs.flatMap String.utf8EncodeChar)
    rw [List.flatMap_cons, hchar, ih]
    rfl

/-- The bytes of an array from a position on. -/
theorem toList_loop (bytes : ByteArray) (i : Nat) (read : Bytes) :
    ByteArray.toList.loop bytes i read = read.reverse ++ bytes.data.toList.drop i := by
  fun_induction ByteArray.toList.loop bytes i read with
  | case1 i read hlt ih =>
    have hlength : i < bytes.data.toList.length := by simpa using hlt
    rw [ih, List.drop_eq_getElem_cons hlength]
    simp [ByteArray.get!, hlt]
  | case2 i read hge =>
    rw [List.drop_eq_nil_of_le (by simpa using Nat.le_of_not_lt hge), List.append_nil]

/-- **The bytes of a text** are those of its characters. -/
theorem toList_toUTF8 (text : String) : text.toUTF8.toList = text.toList.flatMap String.utf8EncodeChar := by
  have hdata : text.toUTF8.data.toList = text.toList.flatMap String.utf8EncodeChar := by
    obtain ⟨cs, rfl⟩ : ∃ cs, text = String.ofList cs := ⟨text.toList, String.ofList_toList.symm⟩
    rw [String.toList_ofList]
    exact List.toList_data_toByteArray
  rw [ByteArray.toList, toList_loop, hdata]
  rfl

/-- **The bytes of a text are read as the text.** -/
theorem decode_toUTF8 (p : Nat) (text : String) : decode p text.toUTF8.toList = .ok text.toList := by
  rw [toList_toUTF8, decode_flatMap]

end DumpSummary.Text.Utf8
