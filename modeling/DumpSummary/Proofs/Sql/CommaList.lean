import DumpSummary.Sql.Parse
import Mathlib.Data.List.Forall2

/-!
# Lists with commas, read back

An item is read back if a parser takes exactly its tokens, whatever may follow an item in a list.  Items that are
read back one by one are read back as a list.

## Contents

* `bind_ok`: a parser after another;
* `AfterList`, `AfterItem`: the tokens that may follow a list and an item of one;
* `ReadsItem`: an item is read back;
* `commaList_reads`: a list is read back.
-/

namespace DumpSummary.Sql.Parse

variable {α β : Type} {d : Dialect}

/-- A parser that finds something, and the parser that goes on from there. -/
theorem bind_ok {p : Parse α} {f : α → Parse β} {ts rest : List Token} {a : α} {r : Except Rejection (β × List Token)}
    (hp : p d ts = .ok (a, rest)) (hf : f a d rest = r) : (p >>= f) d ts = r := by
  show (p d ts >>= fun x => f x.1 d x.2) = r
  rw [hp]
  exact hf

/-- What may follow a list: nothing, or a closing parenthesis. -/
inductive AfterList : List Token → Prop
  /-- The tokens end. -/
  | nil : AfterList []
  /-- A parenthesis closes. -/
  | close (ts : List Token) : AfterList (.sign ")" :: ts)

/-- What may follow an item of a list: what may follow the list, or a comma. -/
inductive AfterItem : List Token → Prop
  /-- The tokens end. -/
  | nil : AfterItem []
  /-- A parenthesis closes. -/
  | close (ts : List Token) : AfterItem (.sign ")" :: ts)
  /-- Another item follows. -/
  | comma (ts : List Token) : AfterItem (.sign "," :: ts)

/-- An item is read back: the parser takes its tokens and no more. -/
def ReadsItem (d : Dialect) (p : Parse (Option α)) (item : List Token) (a : α) : Prop :=
  ∀ rest, AfterItem rest → p d (item ++ rest) = .ok (some a, rest)

/-- The tokens of the items of a list after the first, each behind its comma. -/
def furtherTokens (items : List (List Token)) : List Token := items.flatMap (.sign "," :: ·)

/-- The tokens of a list. -/
def listTokens : List (List Token) → List Token
  | [] => []
  | item :: items => item ++ furtherTokens items

theorem furtherTokens_cons (item : List Token) (items : List (List Token)) :
    furtherTokens (item :: items) = .sign "," :: (item ++ furtherTokens items) := rfl

/-- What follows the first item may follow an item. -/
theorem afterItem_furtherTokens (items : List (List Token)) {rest : List Token} (h : AfterList rest) :
    AfterItem (furtherTokens items ++ rest) := by
  cases items with
  | nil =>
    cases h with
    | nil => exact .nil
    | close ts => exact .close ts
  | cons item items => exact .comma _

/-- Each further item takes a token for its comma. -/
theorem length_le_furtherTokens (items : List (List Token)) : items.length ≤ (furtherTokens items).length := by
  induction items with
  | nil => exact Nat.le_refl 0
  | cons item items ih =>
    rw [furtherTokens_cons]
    simp only [List.length_cons, List.length_append]
    omega

/-- One step of reading a list: a comma and the item behind it. -/
def commaStep (p : Parse (Option α)) (found : List α × Bool) : Parse (Option (List α × Bool)) := do
  if !(← sign ",") then return none
  match ← p with
  | some a => return some (a :: found.1, false)
  | none => return some (found.1, true)

/-- Without a comma there is no further step. -/
theorem commaStep_end (p : Parse (Option α)) (found : List α × Bool) {rest : List Token} (h : AfterList rest) :
    commaStep p found d rest = .ok (none, rest) := by
  cases h with
  | nil => rfl
  | close ts => rfl

/-- A comma with an item behind it makes a step. -/
theorem commaStep_item {p : Parse (Option α)} {item rest : List Token} {a : α} (found : List α × Bool)
    (h : ReadsItem d p item a) (hrest : AfterItem rest) :
    commaStep p found d (.sign "," :: (item ++ rest)) = .ok (some (a :: found.1, false), rest) :=
  bind_ok (a := true) rfl (bind_ok (h rest hrest) rfl)

/-- **All steps.**  The steps take the further items in order, whatever bounds their number, if it is large enough. -/
theorem iterateLoop_commaStep {p : Parse (Option α)} {items : List (List Token)} {as : List α}
    (h : List.Forall₂ (ReadsItem d p) items as) {rest : List Token} (hrest : AfterList rest)
    (found : List α) {bound : List Token} (hbound : items.length ≤ bound.length) :
    iterateLoop (commaStep p) bound (found, false) d (furtherTokens items ++ rest)
      = .ok ((as.reverse ++ found, false), rest) := by
  induction h generalizing found bound with
  | nil =>
    have hend := commaStep_end (d := d) p (found, false) hrest
    cases bound with
    | nil => exact bind_ok hend rfl
    | cons t bound => exact bind_ok hend rfl
  | @cons item a items as hitem _ ih =>
    cases bound with
    | nil => exact absurd hbound (Nat.not_succ_le_zero _)
    | cons t bound =>
      have hstep := commaStep_item (found, false) hitem (afterItem_furtherTokens items hrest)
      rw [furtherTokens_cons, List.cons_append, List.append_assoc, List.reverse_cons, List.append_assoc]
      exact bind_ok hstep (ih (a :: found) (Nat.le_of_succ_le_succ hbound))

/-- **A list is read back** if each of its items is and there is at least one. -/
theorem commaList_reads {p : Parse (Option α)} {items : List (List Token)} {as : List α}
    (h : List.Forall₂ (ReadsItem d p) items as) (hne : items ≠ []) {rest : List Token} (hrest : AfterList rest) :
    commaList p d (listTokens items ++ rest) = .ok (as, rest) := by
  cases h with
  | nil => exact absurd rfl hne
  | @cons item a items as hitem hitems =>
    have hfirst := hitem _ (afterItem_furtherTokens items hrest)
    have hbound : items.length ≤ (furtherTokens items ++ rest).length := by
      have := length_le_furtherTokens items
      rw [List.length_append]
      omega
    have hloop := iterateLoop_commaStep hitems hrest [a] hbound
    show commaList p d (item ++ furtherTokens items ++ rest) = _
    rw [List.append_assoc]
    refine bind_ok (bind_ok hfirst (bind_ok (bind_ok rfl hloop) rfl)) ?_
    show Except.ok ((as.reverse ++ [a]).reverse, rest) = _
    rw [List.reverse_append, List.reverse_reverse]
    rfl

end DumpSummary.Sql.Parse
