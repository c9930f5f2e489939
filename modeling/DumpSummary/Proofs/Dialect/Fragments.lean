import DumpSummary.Proofs.Dialect.Occurrence

/-!
# The dialect of fragments

A dump whose fragments have a semicolon on a line of its own between them shows the dialect that the set of its fragments
shows: neither their order nor how often they occur matters.

A sign occurs in such a dump exactly if it occurs in one of the fragments, although blanks may cross line breaks and
although an item for a place looks at the characters on both sides.  Nothing that is accepted takes in a semicolon and a
line break next to it.  What begins in a fragment may take the break behind it, but what is left of the pattern then has
to begin between the break and the semicolon, where it is barred; so it ends in the fragment, whose end looks like the
end of a text.  What begins at the semicolon or at the break behind it is barred, too, and behind that break begins what
looks like a text of its own.

Which patterns these are is computed from their items, so a new sign has only to be checked.

## Contents

* `barred`, `matchesAt_of_barred`: no place between two characters;
* `endsBefore`, `matchesAt_append_break`: what ends before a line break;
* `keptApart`, `occursIn_append_line`: a sign that a line keeps apart;
* `joined`, `occursIn_joined`: **a sign occurs in a dump if it occurs in a fragment**;
* `detect_joined_congr`, `detect_joined`: **the dialect of fragments.**
-/

namespace DumpSummary.Dialect

open Text (isWord)

variable {p : Pattern} {c : Char}

/-! ## Places at which a pattern is barred -/

/-- Whether the pattern cannot be accepted between the two characters, whatever stands behind them. -/
def barred (x y : Char) : Pattern → Bool
  | [] => false
  | .lineStart :: p => x != '\n' || barred x y p
  | .lineEnd :: p => y != '\n' || barred x y p
  | .wordEdge :: p => isWord x == isWord y || barred x y p
  | .one k :: _ => !k.accepts y
  | .many k :: p => !k.accepts y && barred x y p
  | .oneOrMore k :: _ => !k.accepts y

theorem matchesAt_of_barred {x y : Char} (h : barred x y p = true) (cs : List Char) :
    matchesAt p (some x) (y :: cs) = false := by
  induction p with
  | nil => cases h
  | cons i p ih =>
    cases i with
    | lineStart =>
      simp only [barred, Bool.or_eq_true, bne_iff_ne] at h
      rcases h with h | h
      · simp [matchesAt, h]
      · simp [matchesAt, ih h]
    | lineEnd =>
      simp only [barred, Bool.or_eq_true, bne_iff_ne] at h
      rcases h with h | h
      · simp [matchesAt, h]
      · simp [matchesAt, ih h]
    | wordEdge =>
      simp only [barred, Bool.or_eq_true, beq_iff_eq] at h
      rcases h with h | h
      · simp [matchesAt, isWordEdge, h]
      · simp [matchesAt, ih h]
    | one k =>
      simp only [barred, Bool.not_eq_true'] at h
      simp [matchesAt, h]
    | many k =>
      simp only [barred, Bool.and_eq_true, Bool.not_eq_true'] at h
      simp [matchesAt, manyThen, h.1, ih h.2]
    | oneOrMore k =>
      simp only [barred, Bool.not_eq_true'] at h
      simp [matchesAt, h]

/-! ## What ends before a line break -/

/-- Whether what the pattern accepts cannot take a line break that `c` follows: no item stands for the break, or what is
left of the pattern is barred behind it. -/
def endsBefore (c : Char) : Pattern → Bool
  | [] => true
  | .one k :: p => (!k.accepts '\n' || barred '\n' c p) && endsBefore c p
  | .many k :: p => (!k.accepts '\n' || barred '\n' c (.many k :: p)) && endsBefore c p
  | .oneOrMore k :: p => (!k.accepts '\n' || barred '\n' c (.many k :: p)) && endsBefore c p
  | _ :: p => endsBefore c p

/-- A line break behind a text changes nothing about the character behind a place in it. -/
theorem sameNeighbour_append_break (cs rest : List Char) : SameNeighbour (cs ++ '\n' :: rest).head? cs.head? := by
  cases cs with
  | nil => exact sameNeighbour_lineBreak
  | cons x cs => exact ⟨rfl, rfl⟩

/-- An item that takes the line break leaves a pattern that is barred behind it. -/
theorem accepts_and_matchesAt_eq_false {k : CharClass} (h : (!k.accepts '\n' || barred '\n' c p) = true)
    (rest : List Char) : (k.accepts '\n' && matchesAt p (some '\n') (c :: rest)) = false := by
  rw [Bool.or_eq_true, Bool.not_eq_true'] at h
  rcases h with h | h
  · rw [h, Bool.false_and]
  · rw [matchesAt_of_barred h, Bool.and_false]

/-- Any number of characters of a class, in a text and with a line break behind it. -/
theorem manyThen_append_break {k : CharClass} (hk : (!k.accepts '\n' || barred '\n' c (.many k :: p)) = true)
    {rest : List Char} (hp : ∀ before cs, matchesAt p before (cs ++ '\n' :: c :: rest) = matchesAt p before cs)
    (before : Option Char) (cs : List Char) :
    manyThen k (matchesAt p) before (cs ++ '\n' :: c :: rest) = manyThen k (matchesAt p) before cs := by
  induction cs generalizing before with
  | nil =>
    have hbreak := accepts_and_matchesAt_eq_false hk rest
    show (matchesAt p before ('\n' :: c :: rest) || (k.accepts '\n' && matchesAt (.many k :: p) (some '\n') (c :: rest)))
      = matchesAt p before []
    rw [hbreak, Bool.or_false]
    exact hp before []
  | cons x cs ih =>
    have hnext := hp before (x :: cs)
    rw [List.cons_append] at hnext ⊢
    unfold manyThen
    rw [hnext, ih]

/-- **One place.**  What the pattern accepts in a text it accepts with the line break and `c` behind the text, and
nothing else. -/
theorem matchesAt_append_break (h : endsBefore c p = true) (rest : List Char) (before : Option Char)
    (cs : List Char) : matchesAt p before (cs ++ '\n' :: c :: rest) = matchesAt p before cs := by
  induction p generalizing before cs with
  | nil => rfl
  | cons i p ih =>
    have hneighbour := sameNeighbour_append_break cs (c :: rest)
    cases i with
    | lineStart =>
      unfold matchesAt
      rw [ih h]
    | lineEnd =>
      unfold matchesAt
      rw [ih h, hneighbour.line]
    | wordEdge =>
      unfold matchesAt isWordEdge
      rw [ih h, hneighbour.word]
    | one k =>
      obtain ⟨hk, hp⟩ := (Bool.and_eq_true _ _).mp h
      cases cs with
      | nil => exact accepts_and_matchesAt_eq_false hk rest
      | cons x cs =>
        show (k.accepts x && matchesAt p (some x) (cs ++ _)) = (k.accepts x && matchesAt p (some x) cs)
        rw [ih hp]
    | many k =>
      obtain ⟨hk, hp⟩ := (Bool.and_eq_true _ _).mp h
      exact manyThen_append_break hk (ih hp) before cs
    | oneOrMore k =>
      obtain ⟨hk, hp⟩ := (Bool.and_eq_true _ _).mp h
      cases cs with
      | nil => exact accepts_and_matchesAt_eq_false hk rest
      | cons x cs =>
        show (k.accepts x && manyThen k (matchesAt p) (some x) (cs ++ _))
          = (k.accepts x && manyThen k (matchesAt p) (some x) cs)
        rw [manyThen_append_break hk (ih hp)]

/-! ## A line that keeps patterns apart -/

/-- Whether `c` on a line of its own keeps the pattern apart: what begins before the line ends before it, and nothing
begins at it. -/
def keptApart (c : Char) (p : Pattern) : Bool := endsBefore c p && (barred '\n' c p && barred c '\n' p)

/-- **A line between two texts.**  A pattern that it keeps apart occurs in the whole exactly if it occurs in one of the
texts. -/
theorem occursIn_append_line (h : keptApart c p = true) (l r : List Char) :
    occursIn p (l ++ '\n' :: c :: '\n' :: r) = (occursIn p l || occursIn p r) := by
  simp only [keptApart, Bool.and_eq_true] at h
  obtain ⟨hends, hbefore, hbehind⟩ := h
  have hplace := matchesAt_append_break hends ('\n' :: r)
  -- what follows the line begins like a text of its own
  have hright : occursAfter p (some '\n') r = occursIn p r :=
    occursAfter_congr (blind_eq p) sameNeighbour_lineBreak (List.forall₂_refl r)
  have hall : ∀ before, occursAfter p before (l ++ '\n' :: c :: '\n' :: r)
      = (occursAfter p before l || occursIn p r) := by
    induction l with
    | nil =>
      intro before
      have hfirst := hplace before []
      rw [List.nil_append] at hfirst ⊢
      simp only [occursAfter]
      rw [hfirst, matchesAt_of_barred hbefore, matchesAt_of_barred hbehind, hright]
      simp
    | cons x l ih =>
      intro before
      have hfirst := hplace before (x :: l)
      rw [List.cons_append] at hfirst ⊢
      simp only [occursAfter]
      rw [hfirst, ih, Bool.or_assoc]
  exact hall none

/-! ## Fragments -/

/-- Fragments with a semicolon on a line of its own between them. -/
def joined (fragments : List String) : String := String.intercalate "\n;\n" fragments

/-- A semicolon on a line of its own keeps all signs apart, and none of them is the empty text. -/
theorem keptApart_of_mem_allSigns (h : p ∈ allSigns) : keptApart ';' p = true ∧ occursIn p [] = false := by
  have hall : ∀ p ∈ allSigns, keptApart ';' p = true ∧ occursIn p [] = false := by decide
  exact hall p h

/-- **A sign occurs in a dump** exactly if it occurs in one of its fragments. -/
theorem occursIn_joined (h : p ∈ allSigns) (fragments : List String) :
    occursIn p (joined fragments).toList = true ↔ ∃ f ∈ fragments, occursIn p f.toList = true := by
  obtain ⟨hapart, hempty⟩ := keptApart_of_mem_allSigns h
  induction fragments with
  | nil => simp [joined, hempty]
  | cons f rest ih =>
    cases rest with
    | nil => simp [joined]
    | cons g rest =>
      have htext : (joined (f :: g :: rest)).toList = f.toList ++ '\n' :: ';' :: '\n' :: (joined (g :: rest)).toList := by
        unfold joined
        rw [String.intercalate_cons_cons]
        simp
      rw [htext, occursIn_append_line hapart, Bool.or_eq_true, ih]
      simp only [List.exists_mem_cons_iff]

/-- **The dialect of fragments** is that of any other list of the same fragments. -/
theorem detect_joined_congr {fs gs : List String} (h : ∀ f, f ∈ fs ↔ f ∈ gs) :
    detect (joined fs) = detect (joined gs) := by
  apply detect_congr
  intro p hp
  rw [Bool.eq_iff_iff, occursIn_joined hp, occursIn_joined hp]
  simp only [h]

/-- **Neither the order nor the number of fragments matters**: the dialect stays the same if they are put into any other
order, and if one of them is repeated at any place. -/
theorem detect_joined (fs : List String) :
    (∀ gs, fs.Perm gs → detect (joined gs) = detect (joined fs)) ∧
    ∀ f ∈ fs, ∀ l r, l ++ r = fs → detect (joined (l ++ f :: r)) = detect (joined fs) := by
  constructor
  · intro gs hperm
    apply detect_joined_congr
    intro f
    exact hperm.mem_iff.symm
  · rintro f hf l r rfl
    apply detect_joined_congr
    intro g
    rw [List.mem_append] at hf
    rw [List.mem_append, List.mem_append, List.mem_cons]
    constructor
    · rintro (hg | rfl | hg)
      · exact Or.inl hg
      · exact hf
      · exact Or.inr hg
    · rintro (hg | hg)
      · exact Or.inl hg
      · exact Or.inr (Or.inr hg)

/-- A sign that would come together if its parts were neighbours stays apart in every order, and a line that holds one
word only is one also where it is repeated. -/
theorem detect_joined_go :
    let fs := ["SET", "IDENTITY_INSERT [t] ON", " GO"]
    let gs := [" GO", "SET", "IDENTITY_INSERT [t] ON"]
    let repeated := ["SET", " GO", "IDENTITY_INSERT [t] ON", " GO"]
    fs.Perm gs ∧ " GO" ∈ fs ∧ detect (joined fs) = "tsql" ∧ detect (joined gs) = "tsql" ∧
      detect (joined repeated) = "tsql" := by
  intro fs gs repeated
  have hperm : fs.Perm gs := by decide
  have hmem : " GO" ∈ fs := by decide
  have hdialect : detect (joined fs) = "tsql" := by decide +kernel
  obtain ⟨horder, hrepeat⟩ := detect_joined fs
  exact ⟨hperm, hmem, hdialect, (horder gs hperm).trans hdialect,
    (hrepeat " GO" hmem ["SET"] ["IDENTITY_INSERT [t] ON", " GO"] rfl).trans hdialect⟩

end DumpSummary.Dialect
