import DumpSummary.Sql.Scan
import DumpSummary.Proofs.Sql.CommaList
import DumpSummary.Proofs.Script.Verbatim

/-!
# Written tokens, scanned

A text is scanned as some tokens if the scanner finds exactly those tokens at its head, whatever comes after it, as
long as that begins at an edge: a space, a comma or a parenthesis.  Keywords, quoted names, numbers and escaped
strings are scanned as the tokens they were written for, in the rules of MySQL.

## Contents

* `Scans`, `Edge`, `ScansAs`: a text and its tokens;
* `scansAs_keyword`, `scansAs_name`, `scansAs_number`, `scansAs_literal`: single tokens;
* `scansAs_intercalate`: lists with commas.
-/

namespace DumpSummary.Sql

open Text

/-! ## Texts and their tokens -/

/-- The tokens of a text, whatever bounds the steps of the scanner, if it is large enough. -/
def Scans (d : Dialect) (cs : List Char) (ts : List Token) : Prop :=
  ∀ fuel, cs.length ≤ fuel → scanLoop d fuel cs = some ts

variable {d : Dialect} {c : Char} {cs rest : List Char} {t : Token} {ts : List Token}

/-- One step of the scanner. -/
theorem scanLoop_cons (d : Dialect) (fuel : Nat) (c : Char) (cs : List Char) :
    scanLoop d (fuel + 1) (c :: cs) =
      match scanOne d c cs with
      | .token t rest => (scanLoop d fuel rest).map (t :: ·)
      | .gap rest => scanLoop d fuel rest
      | .unterminated => none := by
  delta scanLoop
  exact Eq.refl _

theorem scans_nil : Scans d [] [] := by
  intro fuel _
  cases fuel <;> rfl

/-- A step that finds a token. -/
theorem Scans.token (h : scanOne d c cs = .token t rest) (hlen : rest.length ≤ cs.length) (hrest : Scans d rest ts) :
    Scans d (c :: cs) (t :: ts) := by
  intro fuel hfuel
  cases fuel with
  | zero => exact absurd hfuel (Nat.not_succ_le_zero _)
  | succ fuel =>
    have htail := hrest fuel (Nat.le_trans hlen (Nat.le_of_succ_le_succ hfuel))
    rw [scanLoop_cons, h]
    dsimp only
    rw [htail]
    rfl

/-- A step that passes over a blank. -/
theorem Scans.blank (h : isBlank c = true) (hcs : Scans d cs ts) : Scans d (c :: cs) ts := by
  intro fuel hfuel
  cases fuel with
  | zero => exact absurd hfuel (Nat.not_succ_le_zero _)
  | succ fuel =>
    have hone : scanOne d c cs = .gap cs := if_pos h
    rw [scanLoop_cons, hone]
    exact hcs fuel (Nat.le_of_succ_le_succ hfuel)

/-- The tokens of a text are those that the scanner finds. -/
theorem scan?_of_scans {text : List Char} (h : Scans d text ts) : scan? d (String.ofList text) = some ts := by
  show scanLoop d (String.ofList text).toList.length (String.ofList text).toList = some ts
  rw [String.toList_ofList]
  exact h _ (Nat.le_refl _)

/-- The signs and the space that may follow a token without running into it. -/
def edges : List Char := [' ', ',', '(', ')']

/-- The text begins at an edge, or it is empty. -/
def Edge (cs : List Char) : Prop := ∀ c ∈ cs.head?, c ∈ edges

theorem edge_nil : Edge [] := by
  intro c h
  cases h

theorem edge_cons (h : c ∈ edges) : Edge (c :: cs) := by
  intro e he
  obtain rfl : c = e := Option.some.inj he
  exact h

/-- A character that is no edge does not begin such a text. -/
theorem Edge.head?_ne (h : Edge cs) {e : Char} (he : e ∉ edges) : cs.head? ≠ some e :=
  fun hc => he (h e hc)

/-- The text is scanned as the tokens, whatever follows at an edge. -/
def ScansAs (d : Dialect) (w : List Char) (ts : List Token) : Prop :=
  ∀ (rest : List Char) (rs : List Token), Edge rest → Scans d rest rs → Scans d (w ++ rest) (ts ++ rs)

/-- A text that is scanned as tokens whatever follows it, alone. -/
theorem ScansAs.scans {w : List Char} {ts : List Token} (h : ScansAs d w ts) : Scans d w ts := by
  have hall := h [] [] edge_nil scans_nil
  rwa [List.append_nil, List.append_nil] at hall

/-! ## Signs -/

/-- A parenthesis or a comma. -/
theorem Scans.sign (hc : c ∈ [',', '(', ')']) (hcs : Scans .mysql cs ts) :
    Scans .mysql (c :: cs) (.sign (String.singleton c) :: ts) := by
  refine Scans.token ?_ (Nat.le_refl _) hcs
  simp only [List.mem_cons, List.not_mem_nil, or_false] at hc
  rcases hc with rfl | rfl | rfl
  · exact (rfl)
  · exact (rfl)
  · exact (rfl)

/-- A list in parentheses. -/
theorem scansAs_parens {w : List Char} {ts : List Token} (h : ScansAs .mysql w ts) :
    ScansAs .mysql ('(' :: w ++ [')']) (.sign "(" :: ts ++ [.sign ")"]) := by
  intro rest rs _ hrest
  have hclose := Scans.sign (c := ')') (by decide) hrest
  have hopen := Scans.sign (c := '(') (by decide) (h _ _ (edge_cons (by decide)) hclose)
  simpa using hopen

/-- A text before another one that begins at an edge. -/
theorem ScansAs.before {u v : List Char} {us vs : List Token} (hu : ScansAs .mysql u us) (hv : ScansAs .mysql v vs)
    (hedge : ∃ c cs, v = c :: cs ∧ c ∈ edges) : ScansAs .mysql (u ++ v) (us ++ vs) := by
  obtain ⟨c, cs, rfl, hc⟩ := hedge
  intro rest rs hrest hscan
  rw [List.append_assoc, List.append_assoc]
  exact hu _ _ (edge_cons hc) (hv rest rs hrest hscan)

/-- A text and another one with a space between them. -/
theorem ScansAs.spaced {u v : List Char} {us vs : List Token} (hu : ScansAs .mysql u us) (hv : ScansAs .mysql v vs) :
    ScansAs .mysql (u ++ ' ' :: v) (us ++ vs) := by
  have hblank : ScansAs .mysql (' ' :: v) vs :=
    fun rest rs hrest hscan => Scans.blank (by decide) (hv rest rs hrest hscan)
  exact hu.before hblank ⟨' ', v, rfl, by decide⟩

/-! ## Keywords -/

/-- Two letters that a phrase of several words may begin with. -/
def startsPhrase (c e : Char) : Bool :=
  (phrases .mysql).any fun phrase =>
    match phrase.toList with
    | p :: q :: _ => p == ' ' || q == ' ' || (upperChar c == [p] && upperChar e == [q])
    | _ => true

/-- A phrase is read letter by letter. -/
theorem scanPhrase_eq_none {p : Char} {ps : List Char} (hp : p ≠ ' ')
    (h : upperChar c = [p] → scanPhrase ps cs = none) : scanPhrase (p :: ps) (c :: cs) = none := by
  unfold scanPhrase
  split
  · rename_i he
    cases he
  · rename_i he
    exact absurd (List.cons.inj he).1 hp
  · rename_i he
    obtain ⟨rfl, rfl⟩ := List.cons.inj he
    dsimp only
    split
    · rename_i hu
      exact h (by simpa using hu)
    · rfl

theorem scanPhrases_eq_none {e : Char} (h : startsPhrase c e = false) (cs : List Char) :
    scanPhrases .mysql (c :: e :: cs) = none := by
  unfold scanPhrases
  rw [List.findSome?_eq_none_iff]
  intro phrase hmem
  have hphrase := List.any_eq_false.mp h phrase hmem
  suffices hnone : scanPhrase phrase.toList (c :: e :: cs) = none by rw [hnone]
  cases hl : phrase.toList with
  | nil => rw [hl] at hphrase; exact absurd rfl hphrase
  | cons p ps =>
    cases ps with
    | nil => rw [hl] at hphrase; exact absurd rfl hphrase
    | cons q ps =>
      rw [hl] at hphrase
      simp only [Bool.or_eq_true, beq_iff_eq, Bool.and_eq_true, not_or, not_and] at hphrase
      obtain ⟨⟨hp, hq⟩, hpq⟩ := hphrase
      exact scanPhrase_eq_none hp fun hcp => scanPhrase_eq_none hq fun heq => absurd heq (hpq hcp)

theorem scanSigns_eq_none (h : c.isUpper = true) (cs : List Char) : scanSigns .mysql (c :: cs) = none := by
  unfold scanSigns
  rw [List.findSome?_eq_none_iff]
  intro s hmem
  have hall : (signs .mysql).all (fun s => s.toList.head?.any (!·.isUpper)) = true := by decide
  have hs := List.all_eq_true.mp hall s hmem
  refine if_neg fun hp => ?_
  cases hl : s.toList with
  | nil => rw [hl] at hs; cases hs
  | cons x xs =>
    rw [hl] at hs hp
    have he : x = c := by
      simp only [List.isPrefixOf, Bool.and_eq_true, beq_iff_eq] at hp
      exact hp.1
    rw [he] at hs
    simp [h] at hs

/-- What no edge is part of does not go on at an edge. -/
theorem Edge.takeWhile_eq_nil {p : Char → Bool} (h : Edge rest) (hp : edges.all (!p ·) = true) :
    rest.takeWhile p = [] ∧ rest.dropWhile p = rest := by
  cases rest with
  | nil => exact ⟨rfl, rfl⟩
  | cons e rest =>
    have he : ¬ p e = true := by simpa using List.all_eq_true.mp hp e (h e rfl)
    exact ⟨List.takeWhile_cons_of_neg he, List.dropWhile_cons_of_neg he⟩

/-- A run of characters of a class goes up to an edge, if no edge is of that class. -/
theorem Edge.span_append {p : Char → Bool} (h : Edge rest) (hp : edges.all (!p ·) = true) {w : List Char}
    (hw : ∀ x ∈ w, p x = true) : (w ++ rest).takeWhile p = w ∧ (w ++ rest).dropWhile p = rest := by
  rw [List.takeWhile_append_of_pos hw, List.dropWhile_append_of_pos hw, (h.takeWhile_eq_nil hp).1,
    (h.takeWhile_eq_nil hp).2]
  exact ⟨List.append_nil w, rfl⟩

/-- Where capital letters stand among the characters. -/
theorem toNat_of_isUpper (h : c.isUpper = true) : 65 ≤ c.toNat ∧ c.toNat ≤ 90 := by
  have hbounds : 'A'.val ≤ c.val ∧ c.val ≤ 'Z'.val := of_decide_eq_true h
  exact ⟨hbounds.1, hbounds.2⟩

theorem isBlank_of_isUpper (h : c.isUpper = true) : isBlank c = false := by
  have := toNat_of_isUpper h
  simp [isBlank]
  omega

/-- Where decimal digits stand among the characters. -/
theorem toNat_of_isDigit (h : c.isDigit = true) : 48 ≤ c.toNat ∧ c.toNat ≤ 57 := by
  simp only [Char.isDigit, Bool.and_eq_true, decide_eq_true_eq] at h
  exact ⟨h.1, h.2⟩

theorem isDigit_of_isUpper (h : c.isUpper = true) : c.isDigit = false := by
  rw [← Bool.not_eq_true]
  intro hd
  have := toNat_of_isUpper h
  have := toNat_of_isDigit hd
  omega

/-- No capital letter is a mark. -/
theorem contains_marks_of_isUpper (h : c.isUpper = true) : marks.contains c = false := by
  have hmarks : marks.all (!·.isUpper) = true := by decide
  rw [List.contains_eq_mem, decide_eq_false_iff_not]
  intro hmem
  simpa [h] using List.all_eq_true.mp hmarks c hmem

/-- The characters of a word go up to the edge. -/
theorem wordSpan_append {w : List Char} (hw : ∀ x ∈ w, x.isUpper = true) (hrest : Edge rest) :
    wordSpan .mysql (w ++ rest) = (w, rest) := by
  have hall : ∀ x ∈ w, (!isBlank x && !isMark .mysql x) = true := by
    intro x hx
    have hmark : isMark .mysql x = false := by
      unfold isMark
      rw [contains_marks_of_isUpper (hw x hx), Bool.false_and]
    simp [isBlank_of_isUpper (hw x hx), hmark]
  obtain ⟨htake, hdrop⟩ := hrest.span_append (by decide) hall
  unfold wordSpan
  rw [htake, hdrop]

/-- The step at a word of at least two capital letters. -/
theorem scanOne_word {e : Char} {w : List Char} (hw : ∀ x ∈ c :: e :: w, x.isUpper = true)
    (hp : startsPhrase c e = false) (hrest : Edge rest) :
    scanOne .mysql c (e :: w ++ rest) = .token (Token.ofWord (c :: e :: w)) rest := by
  have hc : c.isUpper = true := hw c List.mem_cons_self
  have hne : ∀ x, x.isUpper = false → c ≠ x := fun x hx hcx => by rw [hcx, hx] at hc; cases hc
  have hne' : e ≠ '\x27' := by
    rintro rfl
    exact absurd (hw '\x27' (by simp)) (by decide)
  have hquote : ¬ (c = '\x27' ∨ c = '\x22' ∨ c = '\x60') := by
    rintro (h | h | h)
    · exact hne '\x27' (by decide) h
    · exact hne '\x22' (by decide) h
    · exact hne '\x60' (by decide) h
  have hmark : ¬ marks.contains c = true := by
    rw [contains_marks_of_isUpper hc]
    decide
  have hspan : wordSpan .mysql (e :: (w ++ rest)) = (e :: w, rest) :=
    wordSpan_append (fun x hx => hw x (List.mem_cons_of_mem c hx)) hrest
  -- the word comes last: everything else that a step may find is ruled out before it
  unfold scanOne
  rw [if_neg (by simp [isBlank_of_isUpper hc]), if_neg (by simp [isDigit_of_isUpper hc])]
  unfold scanPlain
  have hname : (nameQuotes .mysql).lookup c = none := by
    simp [nameQuotes, hne '\x60' (by decide)]
  have hstr : ¬ (stringQuotes .mysql).contains c = true := by
    simp [stringQuotes, hne '\x27' (by decide), hne '\x22' (by decide)]
  rw [hname]
  dsimp only
  rw [if_neg hstr]
  split
  · exact absurd rfl (hne '-' (by decide))
  · exact absurd rfl (hne '/' (by decide))
  · exact absurd rfl (hne '\x7b' (by decide))
  rw [if_neg (fun h => hne '#' (by decide) h.1)]
  split
  · rename_i h
    cases h
    exact absurd rfl hne'
  rw [List.cons_append, scanPhrases_eq_none hp (w ++ rest), scanSigns_eq_none hc]
  dsimp only
  rw [if_neg hquote, if_neg hmark, hspan]

/-- A word of capital letters is its own capital form. -/
theorem upper_of_isUpper {w : List Char} (h : ∀ x ∈ w, x.isUpper = true) :
    upper (String.ofList w) = String.ofList w := by
  have hchar : ∀ x ∈ w, upperChar x = [x] := by
    intro x hx
    have hn := toNat_of_isUpper (h x hx)
    have hlow : ¬ ('a'.val ≤ x.val ∧ x.val ≤ 'z'.val) := by
      intro hl
      have h97 : 97 ≤ x.toNat := hl.1
      omega
    have hupper : x.toUpper = x := dif_neg hlow
    unfold upperChar
    rw [if_pos (by omega), hupper]
  unfold upper
  rw [String.toList_ofList, List.flatMap_congr hchar, List.flatMap_singleton']

/-- A word of capital letters, at least two, that begins no phrase. -/
def isKeyword : List Char → Bool
  | c :: e :: w => (c :: e :: w).all Char.isUpper && !startsPhrase c e
  | _ => false

/-- **A keyword** is scanned as its token. -/
theorem scansAs_keyword {s : String} (h : isKeyword s.toList = true) : ScansAs .mysql s.toList [.word s s] := by
  intro rest rs hedge hrest
  cases hs : s.toList with
  | nil => rw [hs] at h; cases h
  | cons c v =>
    cases v with
    | nil => rw [hs] at h; cases h
    | cons e w =>
      rw [hs] at h
      simp only [isKeyword, Bool.and_eq_true, Bool.not_eq_true'] at h
      have hw : ∀ x ∈ c :: e :: w, x.isUpper = true := List.all_eq_true.mp h.1
      have htoken : Token.ofWord (c :: e :: w) = .word s s := by
        have hofList : String.ofList (c :: e :: w) = s := by rw [← hs, String.ofList_toList]
        have hupper := upper_of_isUpper hw
        rw [hofList] at hupper
        show Token.word (String.ofList (c :: e :: w)) (upper (String.ofList (c :: e :: w))) = _
        rw [hofList, hupper]
      rw [← htoken]
      refine Scans.token (scanOne_word hw h.2 hedge) ?_ hrest
      show rest.length ≤ (e :: w ++ rest).length
      rw [List.length_append]
      omega

/-! ## Quoted names -/

/-- A run without its closing character inside. -/
theorem scanQuoted_append {close : Char} {w : List Char} (hw : close ∉ w) (hrest : rest.head? ≠ some close) :
    scanQuoted close (w ++ close :: rest) = some (w, rest) := by
  induction w with
  | nil =>
    cases rest with
    | nil => simp [scanQuoted]
    | cons e rest =>
      have he : e ≠ close := fun he => hrest (by rw [he]; rfl)
      simp [scanQuoted, he]
  | cons c w ih =>
    have hc : c ≠ close := fun hc => hw (by rw [hc]; exact List.mem_cons_self)
    have htail := ih (fun hm => hw (List.mem_cons_of_mem c hm))
    -- the run is long enough for the step that looks at two characters
    obtain ⟨x, xs, hx⟩ : ∃ x xs, w ++ close :: rest = x :: xs := by
      cases w with
      | nil => exact ⟨close, rest, rfl⟩
      | cons y w => exact ⟨y, w ++ close :: rest, rfl⟩
    rw [List.cons_append, hx, scanQuoted, if_neg hc, ← hx, htail]
    rfl

theorem scanOne_name (cs : List Char) :
    scanOne .mysql '\x60' cs = .ofRun .name (scanQuoted '\x60' cs) := (rfl)

/-- **A name between backticks** is scanned as its token. -/
theorem scansAs_name {w : List Char} (hw : '\x60' ∉ w) :
    ScansAs .mysql ('\x60' :: w ++ ['\x60']) [.name (String.ofList w)] := by
  intro rest rs hedge hrest
  have hrun : scanQuoted '\x60' (w ++ '\x60' :: rest) = some (w, rest) :=
    scanQuoted_append hw (hedge.head?_ne (by decide))
  have hone : scanOne .mysql '\x60' (w ++ '\x60' :: rest) = .token (.name (String.ofList w)) rest := by
    rw [scanOne_name, hrun]
    rfl
  have happend : '\x60' :: w ++ ['\x60'] ++ rest = '\x60' :: (w ++ '\x60' :: rest) := by simp
  rw [happend]
  refine Scans.token hone ?_ hrest
  simp only [List.length_append, List.length_cons]
  omega

/-! ## Escaped strings -/

/-- **Escaping is undone.**  A run of a string with its quotes and backslashes doubled is the string. -/
theorem scanEscaped_literalBody (w : List Char) (hrest : rest.head? ≠ some '\x27') :
    scanEscaped '\x27' (Script.literalBody true w ++ '\x27' :: rest) = some (w, rest) := by
  induction w with
  | nil =>
    cases rest with
    | nil => rfl
    | cons e rest =>
      have he : e ≠ '\x27' := fun he => hrest (by rw [he]; rfl)
      simp [Script.literalBody, scanEscaped, he]
  | cons c w ih =>
    by_cases hq : c = '\x27'
    · subst hq
      show scanEscaped '\x27' ('\x27' :: '\x27' :: (Script.literalBody true w ++ '\x27' :: rest)) = _
      rw [scanEscaped, if_pos rfl, if_pos rfl, ih]
      rfl
    · by_cases hb : c = '\\'
      · subst hb
        show scanEscaped '\x27' ('\\' :: '\\' :: (Script.literalBody true w ++ '\x27' :: rest)) = _
        rw [scanEscaped, if_neg hq, if_pos rfl, ih]
        rfl
      · have hbody : Script.literalBody true (c :: w) = c :: Script.literalBody true w := by
          simp [Script.literalBody, hq, hb]
        obtain ⟨x, xs, hx⟩ : ∃ x xs, Script.literalBody true w ++ '\x27' :: rest = x :: xs := by
          cases Script.literalBody true w with
          | nil => exact ⟨'\x27', rest, rfl⟩
          | cons y v => exact ⟨y, v ++ '\x27' :: rest, rfl⟩
        rw [hbody, List.cons_append, hx, scanEscaped, if_neg hq, if_neg hb, ← hx, ih]
        rfl

theorem scanOne_literal (cs : List Char) :
    scanOne .mysql '\x27' cs = .ofRun (.string .plain) (scanEscaped '\x27' cs) := (rfl)

/-- **An escaped string** between single quotes is scanned as the token of the string. -/
theorem scansAs_literal (w : List Char) :
    ScansAs .mysql ('\x27' :: Script.literalBody true w ++ ['\x27']) [.string .plain (String.ofList w)] := by
  intro rest rs hedge hrest
  have hrun := scanEscaped_literalBody w (hedge.head?_ne (e := '\x27') (by decide))
  have hone : scanOne .mysql '\x27' (Script.literalBody true w ++ '\x27' :: rest)
      = .token (.string .plain (String.ofList w)) rest := by
    rw [scanOne_literal, hrun]
    rfl
  have happend : '\x27' :: Script.literalBody true w ++ ['\x27'] ++ rest
      = '\x27' :: (Script.literalBody true w ++ '\x27' :: rest) := by simp
  rw [happend]
  refine Scans.token hone ?_ hrest
  simp only [List.length_append, List.length_cons]
  omega

/-! ## Numbers -/

/-- No digit is a blank. -/
theorem isBlank_of_isDigit (h : c.isDigit = true) : isBlank c = false := by
  have := toNat_of_isDigit h
  simp [isBlank]
  omega

/-- At an edge there is no exponent. -/
theorem scanExponent_edge (h : Edge rest) : scanExponent rest = ([], rest) := by
  have hne : ∀ e ∈ rest.head?, ¬ (e = 'e' ∨ e = 'E') := by
    rintro e he (rfl | rfl)
    · exact absurd (h _ he) (by decide)
    · exact absurd (h _ he) (by decide)
  unfold scanExponent
  split
  · rw [if_neg (hne _ rfl)]
  · rw [if_neg (hne _ rfl)]
  · rfl

/-- Digits up to an edge. -/
theorem scanDigits_append {w : List Char} (hw : ∀ x ∈ w, x.isDigit = true) (h : Edge rest) :
    scanDigits (w ++ rest) = (w, rest) := by
  obtain ⟨htake, hdrop⟩ := h.span_append (by decide) hw
  unfold scanDigits
  rw [htake, hdrop]
  split
  rename_i fraction tail hpoint
  have hparts : fraction = [] ∧ tail = rest := by
    split at hpoint
    · exact absurd (h '.' rfl) (by decide)
    · cases hpoint
      exact ⟨rfl, rfl⟩
  rw [hparts.1, hparts.2, scanExponent_edge h]
  simp

/-- The token at a run of digits. -/
theorem scanNumber_append {w : List Char} (hw : ∀ x ∈ c :: w, x.isDigit = true) (h : Edge rest) :
    scanNumber .mysql (c :: w ++ rest) = (.number (String.ofList (c :: w)), rest) := by
  -- a zero is not followed by the letter of another base
  have hsecond : ∀ x xs, w ++ rest = x :: xs → ¬ (x = 'x' ∨ x = 'X') ∧ ¬ (x = 'b' ∨ x = 'B') := by
    intro x xs hx
    have hclass : x.isDigit = true ∨ x ∈ edges := by
      cases w with
      | nil => exact Or.inr (h x (by rw [show rest = x :: xs from hx]; rfl))
      | cons y w =>
        obtain rfl : y = x := (List.cons.inj hx).1
        exact Or.inl (hw y (by simp))
    constructor
    · rintro (rfl | rfl)
      · exact absurd hclass (by decide)
      · exact absurd hclass (by decide)
    · rintro (rfl | rfl)
      · exact absurd hclass (by decide)
      · exact absurd hclass (by decide)
  unfold scanNumber
  rw [scanDigits_append hw h]
  dsimp only
  split
  · rename_i heq
    split at heq
    · rename_i x xs hx
      obtain ⟨hhex, hbin⟩ := hsecond x xs (List.cons.inj hx).2
      rw [if_neg (fun hc => hhex hc.1), if_neg (fun hc => hbin hc.1)] at heq
      cases heq
    · cases heq
  · cases rest with
    | nil => rfl
    | cons e rest =>
      have hname : ¬ (isNameStart e = true ∧ Dialect.mysql = Dialect.mysql) := by
        have hall : edges.all (!isNameStart ·) = true := by decide
        have he := List.all_eq_true.mp hall e (h e rfl)
        intro hc
        rw [hc.1] at he
        cases he
      exact if_neg hname

/-- **A run of digits** is scanned as the token of a number, however long it is. -/
theorem scansAs_number {w : List Char} (hw : ∀ x ∈ c :: w, x.isDigit = true) :
    ScansAs .mysql (c :: w) [.number (String.ofList (c :: w))] := by
  intro rest rs hedge hrest
  have hdigit : c.isDigit = true := hw c List.mem_cons_self
  have hblank : isBlank c = false := isBlank_of_isDigit hdigit
  have hone : scanOne .mysql c (w ++ rest) = .token (.number (String.ofList (c :: w))) rest := by
    unfold scanOne
    rw [if_neg (by simp [hblank]), if_pos hdigit]
    have hnumber := scanNumber_append hw hedge
    rw [List.cons_append] at hnumber
    rw [hnumber]
  refine Scans.token hone ?_ hrest
  show rest.length ≤ (w ++ rest).length
  rw [List.length_append]
  omega

/-! ## Lists -/

/-- Blanks are passed over. -/
theorem Scans.blanks {gap : List Char} (hgap : ∀ x ∈ gap, isBlank x = true) (hcs : Scans d cs ts) :
    Scans d (gap ++ cs) ts := by
  induction gap with
  | nil => exact hcs
  | cons x gap ih =>
    exact Scans.blank (hgap x List.mem_cons_self) (ih fun y hy => hgap y (List.mem_cons_of_mem x hy))

/-- **A list** is scanned as the tokens of its items with commas between them; blanks may follow a comma. -/
theorem scansAs_intercalate (gap : List Char) (hgap : ∀ x ∈ gap, isBlank x = true) {ws : List (List Char)}
    {tss : List (List Token)} (h : List.Forall₂ (ScansAs .mysql) ws tss) :
    ScansAs .mysql (List.intercalate (',' :: gap) ws) (Parse.listTokens tss) := by
  induction h with
  | nil => exact fun rest rs _ hrest => hrest
  | @cons w item ws items hw hws ih =>
    intro rest rs hedge hrest
    cases hws with
    | nil =>
      have hone := hw rest rs hedge hrest
      simpa [Parse.listTokens, Parse.furtherTokens] using hone
    | @cons v next ws items hv hws =>
      have htail := Scans.sign (c := ',') (by decide) (Scans.blanks hgap (ih rest rs hedge hrest))
      have hall := hw _ _ (edge_cons (by decide)) htail
      rw [List.intercalate_cons_cons]
      simpa [Parse.listTokens, Parse.furtherTokens_cons] using hall

end DumpSummary.Sql
