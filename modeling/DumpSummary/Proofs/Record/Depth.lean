/-!
# Groups, counted

A group is a pair of parentheses that belong together, with what stands between them.  `depth?` is the number of groups
that are open behind a text, and `outside` is what stands in none.  Both are told of a text in two parts by its parts,
and of a text without parentheses at once.

## Contents

* `depth?`, `Paired`, `outside`: open groups, counted, and what stands in none;
* `depth?_induction`: **induction along the groups** of a text;
* `depth?_append`, `outside_append`: one text behind another;
* `depth?_add`, `outside_add`, `count_of_depth?`: more groups open before a text, and the numbers of its parentheses;
* `depth?_group`, `outside_group`: **a group** counts for nothing;
* `depth?_of_noParens`, `outside_zero_of_noParens`: text without parentheses.
-/

namespace DumpSummary.Record

/-! ## Depth -/

/-- The number of groups that are open behind a text, if `n` are open before it.  There is none if a parenthesis closes
    nothing. -/
def depth? : Nat → List Char → Option Nat
  | n, [] => some n
  | n, c :: cs =>
    if c = '(' then depth? (n + 1) cs
    else if c = ')' then
      match n with
      | 0 => none
      | n + 1 => depth? n cs
    else depth? n cs

/-- Every parenthesis has its partner. -/
def Paired (cs : List Char) : Prop := depth? 0 cs = some 0

instance (cs : List Char) : Decidable (Paired cs) := inferInstanceAs (Decidable (depth? 0 cs = some 0))

/-- What stands in no group, if `n` groups are open before the text. -/
def outside : Nat → List Char → List Char
  | _, [] => []
  | n, c :: cs =>
    if c = '(' then outside (n + 1) cs
    else if c = ')' then outside (n - 1) cs
    else if n = 0 then c :: outside n cs
    else outside n cs

variable {n m : Nat} {c : Char} {cs u w : List Char}

theorem depth?_open : depth? n ('(' :: cs) = depth? (n + 1) cs := rfl

theorem depth?_close : depth? (n + 1) (')' :: cs) = depth? n cs := rfl

theorem depth?_cons_of_ne (hopen : c ≠ '(') (hclose : c ≠ ')') : depth? n (c :: cs) = depth? n cs := by
  cases n <;> rw [depth?, if_neg hopen, if_neg hclose]

theorem outside_open : outside n ('(' :: cs) = outside (n + 1) cs := rfl

theorem outside_close : outside n (')' :: cs) = outside (n - 1) cs := rfl

theorem outside_zero_cons (hopen : c ≠ '(') (hclose : c ≠ ')') : outside 0 (c :: cs) = c :: outside 0 cs := by
  rw [outside, if_neg hopen, if_neg hclose, if_pos rfl]

theorem outside_succ_cons (hopen : c ≠ '(') (hclose : c ≠ ')') : outside (n + 1) (c :: cs) = outside (n + 1) cs := by
  rw [outside, if_neg hopen, if_neg hclose, if_neg (Nat.succ_ne_zero n)]

/-- **Induction along the groups** of a text in which no parenthesis closes nothing. -/
theorem depth?_induction {motive : (n : Nat) → (cs : List Char) → depth? n cs = some m → Prop}
    (nil : motive m [] rfl)
    (opened : ∀ n cs (h : depth? (n + 1) cs = some m), motive (n + 1) cs h → motive n ('(' :: cs) h)
    (closed : ∀ n cs (h : depth? n cs = some m), motive n cs h → motive (n + 1) (')' :: cs) h)
    (other : ∀ n c cs (hopen : c ≠ '(') (hclose : c ≠ ')') (h : depth? n cs = some m), motive n cs h →
      motive n (c :: cs) ((depth?_cons_of_ne hopen hclose).trans h))
    (n : Nat) (cs : List Char) (h : depth? n cs = some m) : motive n cs h := by
  induction cs generalizing n with
  | nil =>
    obtain rfl : n = m := Option.some.inj h
    exact nil
  | cons c cs ih =>
    by_cases hopen : c = '('
    · subst hopen
      exact opened n cs h (ih (n + 1) h)
    by_cases hclose : c = ')'
    · subst hclose
      cases n with
      | zero => cases h
      | succ n => exact closed n cs h (ih n h)
    · have hcs : depth? n cs = some m := (depth?_cons_of_ne hopen hclose).symm.trans h
      exact other n c cs hopen hclose hcs (ih n hcs)

/-- One text behind another. -/
theorem depth?_append (n : Nat) (u v : List Char) : depth? n (u ++ v) = (depth? n u).bind (depth? · v) := by
  induction u generalizing n with
  | nil => rfl
  | cons c u ih =>
    by_cases hopen : c = '('
    · subst hopen
      exact ih (n + 1)
    by_cases hclose : c = ')'
    · subst hclose
      cases n with
      | zero => rfl
      | succ n => exact ih n
    · rw [List.cons_append, depth?_cons_of_ne hopen hclose, depth?_cons_of_ne hopen hclose, ih]

theorem outside_append (h : depth? n u = some m) (v : List Char) : outside n (u ++ v) = outside n u ++ outside m v := by
  induction n, u, h using depth?_induction with
  | nil => rfl
  | opened n u h ih => exact ih
  | closed n u h ih => exact ih
  | other n c u hopen hclose h ih =>
    cases n with
    | zero => rw [List.cons_append, outside_zero_cons hopen hclose, outside_zero_cons hopen hclose, ih]; rfl
    | succ n => rw [List.cons_append, outside_succ_cons hopen hclose, outside_succ_cons hopen hclose, ih]

/-- More groups that are open before a text are open behind it, too. -/
theorem depth?_add (h : depth? n cs = some m) (k : Nat) : depth? (n + k) cs = some (m + k) := by
  induction n, cs, h using depth?_induction with
  | nil => rfl
  | opened n cs h ih => rwa [depth?_open, Nat.add_right_comm]
  | closed n cs h ih => rwa [Nat.add_right_comm, depth?_close]
  | other n c cs hopen hclose h ih => rwa [depth?_cons_of_ne hopen hclose]

/-- In an open group that a text does not close stands all of the text. -/
theorem outside_add (h : depth? n cs = some m) (k : Nat) : outside (n + k + 1) cs = [] := by
  induction n, cs, h using depth?_induction with
  | nil => rfl
  | opened n cs h ih => rwa [outside_open, Nat.add_right_comm n k 1]
  | closed n cs h ih => rwa [outside_close, Nat.add_sub_cancel, Nat.add_right_comm n 1 k]
  | other n c cs hopen hclose h ih => rwa [outside_succ_cons hopen hclose]

/-- The depth behind a text, by the numbers of its parentheses. -/
theorem count_of_depth? (h : depth? n cs = some m) : n + cs.count '(' = m + cs.count ')' := by
  induction n, cs, h using depth?_induction with
  | nil => rfl
  | opened n cs h ih =>
    rw [List.count_cons_self, List.count_cons_of_ne (by decide)]
    omega
  | closed n cs h ih =>
    rw [List.count_cons_self, List.count_cons_of_ne (by decide)]
    omega
  | other n c cs hopen hclose h ih => rwa [List.count_cons_of_ne hopen, List.count_cons_of_ne hclose]

/-- A paired text closes the groups that it opens. -/
theorem Paired.depth?_eq (h : Paired u) (n : Nat) : depth? n u = some n := by
  have hadd := depth?_add h n
  rwa [Nat.zero_add] at hadd

/-- **A group** leaves as many groups open as there were. -/
theorem depth?_group (h : Paired u) (n : Nat) (cs : List Char) : depth? n ('(' :: (u ++ ')' :: cs)) = depth? n cs := by
  rw [depth?_open, depth?_append, h.depth?_eq]
  rfl

/-- Nothing of a group stands outside it. -/
theorem outside_group (h : Paired u) (n : Nat) (cs : List Char) :
    outside n ('(' :: (u ++ ')' :: cs)) = outside n cs := by
  have hinside : outside (n + 1) u = [] := by
    have hadd := outside_add h n
    rwa [Nat.zero_add] at hadd
  rw [outside_open, outside_append (h.depth?_eq (n + 1)), hinside]
  rfl

/-! ## Text without parentheses -/

/-- Neither a character nor what follows it is a parenthesis. -/
theorem noParens_cons (h : '(' ∉ c :: w ∧ ')' ∉ c :: w) : c ≠ '(' ∧ c ≠ ')' ∧ '(' ∉ w ∧ ')' ∉ w := by
  obtain ⟨hopen, hclose⟩ := h
  rw [List.mem_cons, not_or] at hopen hclose
  exact ⟨Ne.symm hopen.1, Ne.symm hclose.1, hopen.2, hclose.2⟩

theorem depth?_of_noParens (h : '(' ∉ w ∧ ')' ∉ w) (n : Nat) : depth? n w = some n := by
  induction w with
  | nil => rfl
  | cons c w ih =>
    obtain ⟨hopen, hclose, hw⟩ := noParens_cons h
    rw [depth?_cons_of_ne hopen hclose, ih hw]

theorem outside_zero_of_noParens (h : '(' ∉ w ∧ ')' ∉ w) : outside 0 w = w := by
  induction w with
  | nil => rfl
  | cons c w ih =>
    obtain ⟨hopen, hclose, hw⟩ := noParens_cons h
    rw [outside_zero_cons hopen hclose, ih hw]

/-- Text without parentheses before another one changes nothing. -/
theorem paired_append_iff (h : '(' ∉ u ∧ ')' ∉ u) (v : List Char) : Paired (u ++ v) ↔ Paired v := by
  unfold Paired
  rw [depth?_append, depth?_of_noParens h]
  rfl

theorem outside_zero_append (h : '(' ∉ u ∧ ')' ∉ u) (v : List Char) : outside 0 (u ++ v) = u ++ outside 0 v := by
  rw [outside_append (depth?_of_noParens h 0), outside_zero_of_noParens h]

end DumpSummary.Record
