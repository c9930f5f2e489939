import DumpSummary.Dialect.Detect
import Mathlib.Data.List.Forall2

/-!
# What detection sees of a text

Detection asks of each sign whether it occurs in a text, and of nothing else: two texts in which the same signs occur
have the same dialect.

Whether a sign occurs depends on the characters only through what its items ask about them.  An item that stands for
characters asks whether they are of its class; an item that stands for a place asks whether a line or a word can begin or
end there.  So two texts are the same for a pattern if they are related character by character, by a relation under
which these answers are the same.

## Contents

* `allSigns`, `detect_congr`: **the signs decide**;
* `SameNeighbour`: what a pattern sees of the character next to a place;
* `Blind`: a pattern that cannot tell related characters apart;
* `matchesAt_congr`, `occursIn_congr`: **related texts are the same for it.**
-/

namespace DumpSummary.Dialect

open Text (isWord)

/-! ## The signs decide -/

/-- All patterns that detection looks for. -/
def allSigns : List Pattern := backtickName :: (oracleSigns ++ sqlServerSigns ++ mysqlSigns)

variable {p : Pattern} {cs ds : List Char}

theorem score_congr {signs : List Pattern} (h : ∀ p ∈ signs, occursIn p cs = occursIn p ds) :
    score signs cs = score signs ds := by
  unfold score
  apply List.countP_congr
  intro p hp
  rw [h p hp]

/-- **The signs decide**: texts in which the same signs occur have the same dialect. -/
theorem detect_congr {a b : String} (h : ∀ p ∈ allSigns, occursIn p a.toList = occursIn p b.toList) :
    detect a = detect b := by
  have hscore {signs : List Pattern} (hsub : ∀ p ∈ signs, p ∈ allSigns) :
      score signs a.toList = score signs b.toList := score_congr fun p hp => h p (hsub p hp)
  have hbacktick := h backtickName List.mem_cons_self
  have horacle : score oracleSigns a.toList = score oracleSigns b.toList := hscore (by simp +contextual [allSigns])
  have hsqlServer : score sqlServerSigns a.toList = score sqlServerSigns b.toList :=
    hscore (by simp +contextual [allSigns])
  have hmysql : score mysqlSigns a.toList = score mysqlSigns b.toList := hscore (by simp +contextual [allSigns])
  unfold detect
  dsimp only
  rw [hbacktick, horacle, hsqlServer, hmysql]

/-! ## Characters that a pattern cannot tell apart -/

/-- A pattern sees the same of the characters next to two places: whether a line can begin or end there, and whether a
word can. -/
structure SameNeighbour (x y : Option Char) : Prop where
  /-- A line begins or ends at both places or at neither. -/
  line : x.all (· == '\n') = y.all (· == '\n')
  /-- The characters are both of a word or both not. -/
  word : x.any isWord = y.any isWord

/-- At a line break a pattern sees what it sees at an end of the text. -/
theorem sameNeighbour_lineBreak : SameNeighbour (some '\n') none := by
  constructor <;> decide

/-- The class of the characters that an item stands for; an item that stands for a place has none. -/
def Item.class? : Item → Option CharClass
  | .one k | .many k | .oneOrMore k => some k
  | _ => none

/-- A pattern that cannot tell related characters apart. -/
structure Blind (R : Char → Char → Prop) (p : Pattern) : Prop where
  /-- They are of the same classes. -/
  accepts : ∀ i ∈ p, ∀ k ∈ i.class?, ∀ {x y}, R x y → k.accepts x = k.accepts y
  /-- They are the same neighbours of a place. -/
  neighbour : ∀ {x y}, R x y → SameNeighbour (some x) (some y)

variable {R : Char → Char → Prop} {x y : Option Char}

theorem Blind.tail {i : Item} (h : Blind R (i :: p)) : Blind R p where
  accepts j hj := h.accepts j (List.mem_cons_of_mem i hj)
  neighbour := h.neighbour

/-- Every pattern tells a character from other ones only. -/
theorem blind_eq (p : Pattern) : Blind (· = ·) p where
  accepts _ _ _ _ := by
    rintro x _ rfl
    rfl
  neighbour := by
    rintro x _ rfl
    exact ⟨rfl, rfl⟩

/-! ## Related texts -/

theorem Blind.head? (hp : Blind R p) (h : List.Forall₂ R cs ds) : SameNeighbour cs.head? ds.head? := by
  cases h with
  | nil => exact ⟨rfl, rfl⟩
  | cons hxy _ => exact hp.neighbour hxy

/-- Any number of characters of a class, before what sees the same in related texts. -/
theorem manyThen_congr {k : CharClass} {next : Option Char → List Char → Bool}
    (hk : ∀ {x y}, R x y → k.accepts x = k.accepts y)
    (hneighbour : ∀ {x y}, R x y → SameNeighbour (some x) (some y))
    (hnext : ∀ {x y cs ds}, SameNeighbour x y → List.Forall₂ R cs ds → next x cs = next y ds)
    (hxy : SameNeighbour x y) (h : List.Forall₂ R cs ds) : manyThen k next x cs = manyThen k next y ds := by
  induction h generalizing x y with
  | nil => exact hnext hxy .nil
  | cons hcd hrest ih =>
    unfold manyThen
    rw [hnext hxy (.cons hcd hrest), hk hcd, ih (hneighbour hcd)]

/-- **One place.**  A blind pattern is accepted at both of two places or at neither, if the characters before them are
the same neighbours and the texts behind them are related. -/
theorem matchesAt_congr (hp : Blind R p) (hxy : SameNeighbour x y) (h : List.Forall₂ R cs ds) :
    matchesAt p x cs = matchesAt p y ds := by
  induction p generalizing x y cs ds with
  | nil => rfl
  | cons i p ih =>
    have hrest := hp.tail
    cases i with
    | lineStart =>
      unfold matchesAt
      rw [hxy.line, ih hrest hxy h]
    | lineEnd =>
      unfold matchesAt
      rw [(hp.head? h).line, ih hrest hxy h]
    | wordEdge =>
      unfold matchesAt isWordEdge
      rw [hxy.word, (hp.head? h).word, ih hrest hxy h]
    | one k =>
      cases h with
      | nil => rfl
      | cons hcd htail =>
        unfold matchesAt
        dsimp only
        rw [hp.accepts _ List.mem_cons_self k rfl hcd, ih hrest (hp.neighbour hcd) htail]
    | many k =>
      have hk : ∀ {x y}, R x y → k.accepts x = k.accepts y := hp.accepts _ List.mem_cons_self k rfl
      unfold matchesAt
      exact manyThen_congr hk hp.neighbour (fun hxy' h' => ih hrest hxy' h') hxy h
    | oneOrMore k =>
      have hk : ∀ {x y}, R x y → k.accepts x = k.accepts y := hp.accepts _ List.mem_cons_self k rfl
      cases h with
      | nil => rfl
      | cons hcd htail =>
        unfold matchesAt
        dsimp only
        rw [hk hcd, manyThen_congr hk hp.neighbour (fun hxy' h' => ih hrest hxy' h') (hp.neighbour hcd) htail]

theorem occursAfter_congr (hp : Blind R p) (hxy : SameNeighbour x y) (h : List.Forall₂ R cs ds) :
    occursAfter p x cs = occursAfter p y ds := by
  induction h generalizing x y with
  | nil => exact matchesAt_congr hp hxy .nil
  | cons hcd hrest ih =>
    unfold occursAfter
    rw [matchesAt_congr hp hxy (.cons hcd hrest), ih (hp.neighbour hcd)]

/-- **All places.**  A blind pattern occurs in both of two related texts or in neither. -/
theorem occursIn_congr (hp : Blind R p) (h : List.Forall₂ R cs ds) : occursIn p cs = occursIn p ds :=
  occursAfter_congr hp ⟨rfl, rfl⟩ h

end DumpSummary.Dialect
