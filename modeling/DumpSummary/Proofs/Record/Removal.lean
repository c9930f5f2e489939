import DumpSummary.Proofs.Record.Depth
import DumpSummary.Record.TypeTag
import Mathlib.Data.List.Basic
import Mathlib.Logic.Function.Iterate

/-!
# Deleting groups until none is left

Groups are deleted pass by pass, in each pass those that hold no other group.  What comes of it does not depend on that
order: a group is a pair of parentheses that belong together, with what stands between them, and there is one text only
that is left when groups have been deleted and no parenthesis opens before another one closes.

That there is no second one is shown by a reader that goes through the text once and takes back what it has kept since
the last open parenthesis when it closes.  Deleting a group does not change what the reader keeps, and where there is no
group left it keeps all.

## Contents

* `Leaves`: what is left when groups are deleted, in any order; `Leaves.trans`;
* `leaves_dropAllGroups`, `settled_dropAllGroups`: the passes delete groups, and all of them;
* `takeBack`: the reader; `foldl_takeBack_of_leaves`, `foldl_takeBack_of_settled`;
* `dropAllGroups_eq_iff`: **what is left**, and that nothing else could be;
* `exists_passes`: **how many passes** it takes.
-/

namespace DumpSummary.Record

open scoped List

variable {n : Nat} {c : Char} {cs ds ts us vs rest kept : List Char}

/-! ## Texts that groups are deleted from -/

/-- Deleting groups from the first text leaves the second one.  A group is deleted with all that it holds. -/
inductive Leaves : List Char → List Char → Prop
  /-- There is nothing to delete. -/
  | nil : Leaves [] []
  /-- A character is left. -/
  | keep (c : Char) {cs ts : List Char} : Leaves cs ts → Leaves (c :: cs) (c :: ts)
  /-- A group is deleted: the parentheses before and behind it belong together. -/
  | group {us cs ts : List Char} : Paired us → Leaves cs ts → Leaves ('(' :: (us ++ ')' :: cs)) ts

namespace Leaves

theorem refl (cs : List Char) : Leaves cs cs := by
  induction cs with
  | nil => exact .nil
  | cons c cs ih => exact .keep c ih

/-- Groups are deleted from one text behind another. -/
theorem append (h : Leaves us vs) (h' : Leaves cs ts) : Leaves (us ++ cs) (vs ++ ts) := by
  induction h with
  | nil => exact h'
  | keep c _ ih => exact .keep c ih
  | @group ws us vs hpaired _ ih =>
    have happend : '(' :: (ws ++ ')' :: us) ++ cs = '(' :: (ws ++ ')' :: (us ++ cs)) := by simp
    rw [happend]
    exact .group hpaired ih

/-- A character that is left stands somewhere, and groups are deleted before and behind it. -/
theorem exists_of_cons (h : Leaves cs (c :: ts)) :
    ∃ us vs, cs = us ++ c :: vs ∧ Leaves us [] ∧ Leaves vs ts := by
  generalize hds : c :: ts = ds at h
  induction h with
  | nil => cases hds
  | @keep d us vs h _ =>
    obtain ⟨rfl, rfl⟩ := List.cons.inj hds
    exact ⟨[], us, rfl, .nil, h⟩
  | @group ws us vs hpaired _ ih =>
    obtain ⟨before, behind, rfl, hbefore, hbehind⟩ := ih hds
    exact ⟨'(' :: (ws ++ ')' :: before), behind, by simp, .group hpaired hbefore, hbehind⟩

/-- What is left of a text in two parts is left of two parts of it. -/
theorem exists_of_append (h : Leaves cs (us ++ ts)) : ∃ vs ds, cs = vs ++ ds ∧ Leaves vs us ∧ Leaves ds ts := by
  induction us generalizing cs with
  | nil => exact ⟨[], cs, rfl, .nil, h⟩
  | cons c us ih =>
    obtain ⟨before, behind, rfl, hbefore, hbehind⟩ := h.exists_of_cons
    obtain ⟨vs, ds, rfl, hvs, hds⟩ := ih hbehind
    exact ⟨before ++ c :: vs, ds, by simp, hbefore.append (.keep c hvs), hds⟩

end Leaves

/-- **Deleting groups changes no depth.** -/
theorem Leaves.depth?_eq (h : Leaves cs ts) (n : Nat) : depth? n cs = depth? n ts := by
  induction h generalizing n with
  | nil => rfl
  | @keep c cs ts _ ih =>
    by_cases hopen : c = '('
    · subst hopen
      exact ih (n + 1)
    by_cases hclose : c = ')'
    · subst hclose
      cases n with
      | zero => rfl
      | succ n => exact ih n
    · rw [depth?_cons_of_ne hopen hclose, depth?_cons_of_ne hopen hclose, ih]
  | group hpaired _ ih => rw [depth?_group hpaired, ih]

/-- Deleting groups takes away nothing that stands in no group. -/
theorem Leaves.outside_eq (h : Leaves cs ts) (n : Nat) : outside n cs = outside n ts := by
  induction h generalizing n with
  | nil => rfl
  | @keep c cs ts _ ih =>
    by_cases hopen : c = '('
    · subst hopen
      exact ih (n + 1)
    by_cases hclose : c = ')'
    · subst hclose
      exact ih (n - 1)
    cases n with
    | zero => rw [outside_zero_cons hopen hclose, outside_zero_cons hopen hclose, ih]
    | succ n => rw [outside_succ_cons hopen hclose, outside_succ_cons hopen hclose, ih]
  | group hpaired _ ih => rw [outside_group hpaired, ih]

/-- **Groups can be deleted one after the other.** -/
theorem Leaves.trans (h : Leaves cs ds) (h' : Leaves ds ts) : Leaves cs ts := by
  induction h' generalizing cs with
  | nil => exact h
  | keep c _ ih =>
    obtain ⟨before, behind, rfl, hbefore, hbehind⟩ := h.exists_of_cons
    exact hbefore.append (.keep c (ih hbehind))
  | @group us ds ts hpaired _ ih =>
    -- the parentheses of the group stand in `cs`, and what groups stood between them besides `us` goes with it
    obtain ⟨before, behind, rfl, hbefore, hbehind⟩ := h.exists_of_cons
    obtain ⟨inner, rest, rfl, hinner, hrest⟩ := hbehind.exists_of_append
    obtain ⟨inner', last, rfl, hinner', hlast⟩ := hrest.exists_of_cons
    have hbetween : Leaves (inner ++ inner') us := by
      have happend := hinner.append hinner'
      rwa [List.append_nil] at happend
    have hpaired' : Paired (inner ++ inner') := (hbetween.depth?_eq 0).trans hpaired
    have hgroup : Leaves ('(' :: ((inner ++ inner') ++ ')' :: last)) ts := .group hpaired' (ih hlast)
    have hcs : '(' :: (inner ++ (inner' ++ ')' :: last)) = '(' :: ((inner ++ inner') ++ ')' :: last) := by simp
    rw [hcs]
    exact hbefore.append hgroup

/-! ## The passes -/

/-- What stands between the parentheses of an innermost group has none. -/
theorem exists_of_groupEnd? (h : groupEnd? cs = some rest) : ∃ w, ('(' ∉ w ∧ ')' ∉ w) ∧ cs = w ++ ')' :: rest := by
  induction cs with
  | nil => cases h
  | cons c cs ih =>
    rw [groupEnd?] at h
    split at h
    · rename_i hclose
      obtain rfl := Option.some.inj h
      exact ⟨[], ⟨List.not_mem_nil, List.not_mem_nil⟩, by rw [hclose]; rfl⟩
    · rename_i hclose
      split at h
      · cases h
      · rename_i hopen
        obtain ⟨w, ⟨hw, hw'⟩, rfl⟩ := ih h
        refine ⟨c :: w, ⟨?_, ?_⟩, rfl⟩
        · exact List.not_mem_cons_of_ne_of_not_mem (Ne.symm hopen) hw
        · exact List.not_mem_cons_of_ne_of_not_mem (Ne.symm hclose) hw'

/-- A pass that does not make a text shorter leaves it as it is. -/
theorem dropGroups_eq_self_of_length (h : cs.length ≤ (dropGroups cs).length) : dropGroups cs = cs := by
  fun_induction dropGroups cs with
  | case1 => rfl
  | case2 cs rest hend ih =>
    have hpass := length_dropGroups_le rest
    have hgroup := length_of_groupEnd? hend
    rw [List.length_cons] at h
    omega
  | case3 cs hend ih => rw [ih (Nat.le_of_succ_le_succ h)]
  | case4 c cs hopen ih => rw [ih (Nat.le_of_succ_le_succ h)]

/-- **What every pass preserves** is preserved by all passes, and when they are done another one changes nothing. -/
theorem dropAllGroups_induction {motive : List Char → List Char → Prop}
    (settled : ∀ cs, dropGroups cs = cs → motive cs cs)
    (pass : ∀ cs ds, motive (dropGroups cs) ds → motive cs ds) (cs : List Char) : motive cs (dropAllGroups cs) := by
  -- on the length, which a pass that deletes something makes smaller
  induction hn : cs.length using Nat.strongRecOn generalizing cs with
  | _ n ih =>
    rw [dropAllGroups]
    split
    · rename_i hlt
      exact pass cs _ (ih _ (hn ▸ hlt) _ rfl)
    · rename_i hlt
      have hself : dropGroups cs = cs := dropGroups_eq_self_of_length (Nat.not_lt.mp hlt)
      rw [hself]
      exact settled cs hself

theorem dropGroups_dropAllGroups (cs : List Char) : dropGroups (dropAllGroups cs) = dropAllGroups cs :=
  dropAllGroups_induction (motive := fun _ ds => dropGroups ds = ds) (fun _ h => h) (fun _ _ h => h) cs

/-- One pass deletes groups. -/
theorem leaves_dropGroups (cs : List Char) : Leaves cs (dropGroups cs) := by
  fun_induction dropGroups cs with
  | case1 => exact .nil
  | case2 cs rest h ih =>
    obtain ⟨w, hw, rfl⟩ := exists_of_groupEnd? h
    exact .group (depth?_of_noParens hw 0) ih
  | case3 cs h ih => exact .keep '(' ih
  | case4 c cs hopen ih => exact .keep c ih

/-- All passes delete groups. -/
theorem leaves_dropAllGroups (cs : List Char) : Leaves cs (dropAllGroups cs) :=
  dropAllGroups_induction (motive := Leaves) (fun cs _ => .refl cs) (fun cs _ h => (leaves_dropGroups cs).trans h) cs

/-- No parenthesis opens before another one closes. -/
def Settled (cs : List Char) : Prop := ¬ ['(', ')'] <+ cs

/-- Where no parenthesis opens, none opens before another one closes. -/
theorem settled_of_notMem (h : '(' ∉ cs) : Settled cs := fun hsub => h (hsub.subset List.mem_cons_self)

/-- If no innermost group ends before the first parenthesis that opens, a closing one stands behind that. -/
theorem not_settled_of_groupEnd? (hend : groupEnd? cs = none) (hclose : ')' ∈ cs) : ['(', ')'] <+ cs := by
  induction cs with
  | nil => cases hclose
  | cons c cs ih =>
    rw [groupEnd?] at hend
    split at hend
    · cases hend
    · rename_i hc
      have hcs : ')' ∈ cs := (List.mem_cons.mp hclose).resolve_left (Ne.symm hc)
      split at hend
      · rename_i hopen
        rw [hopen]
        exact List.Sublist.cons_cons '(' (List.singleton_sublist.mpr hcs)
      · exact (ih hend hcs).cons c

/-- **Where a pass finds nothing to delete**, no parenthesis opens before another one closes. -/
theorem settled_of_dropGroups_eq_self (h : dropGroups cs = cs) : Settled cs := by
  induction cs with
  | nil => exact fun hsub => by cases hsub
  | cons c cs ih =>
    rw [dropGroups] at h
    split at h
    · rename_i hopen
      split at h
      · -- a group that is deleted makes the text shorter
        rename_i rest hend
        have hpass := length_dropGroups_le rest
        have hgroup := length_of_groupEnd? hend
        have hlength := congrArg List.length h
        rw [List.length_cons] at hlength
        omega
      · rename_i hend
        have hcs : Settled cs := ih (List.cons.inj h).2
        intro hsub
        cases hsub with
        | cons _ hsub => exact hcs hsub
        | cons_cons _ hsub => exact hcs (not_settled_of_groupEnd? hend (List.singleton_sublist.mp hsub))
    · rename_i hopen
      have hcs : Settled cs := ih (List.cons.inj h).2
      intro hsub
      cases hsub with
      | cons _ hsub => exact hcs hsub
      | cons_cons _ hsub => exact hopen rfl

theorem settled_dropAllGroups (cs : List Char) : Settled (dropAllGroups cs) :=
  settled_of_dropGroups_eq_self (dropGroups_dropAllGroups cs)

/-- Where every parenthesis has its partner, there is none if none opens before another one closes. -/
theorem Settled.noParens (h : Settled cs) (hpaired : Paired cs) : '(' ∉ cs ∧ ')' ∉ cs := by
  have hopen : '(' ∉ cs := by
    intro hmem
    -- the groups that the parenthesis leaves open would have to be closed behind it
    obtain ⟨us, vs, rfl⟩ := List.append_of_mem hmem
    have hclose : ')' ∉ vs := fun hclose => h <|
      (List.Sublist.cons_cons '(' (List.singleton_sublist.mpr hclose)).trans (List.sublist_append_right us _)
    unfold Paired at hpaired
    rw [depth?_append] at hpaired
    obtain ⟨n, -, hvs⟩ := Option.bind_eq_some_iff.mp hpaired
    have hcount := count_of_depth? (depth?_open.symm.trans hvs)
    rw [List.count_eq_zero.mpr hclose] at hcount
    omega
  have hcount := count_of_depth? hpaired
  rw [List.count_eq_zero.mpr hopen] at hcount
  exact ⟨hopen, List.count_eq_zero.mp (Nat.add_left_cancel hcount).symm⟩

/-! ## The reader -/

/-- Reads one more character, with what was kept before it, last character first: a parenthesis that closes takes back
what was kept since the last open one, and that one, too. -/
def takeBack (kept : List Char) (c : Char) : List Char :=
  if c = ')' ∧ '(' ∈ kept then (kept.dropWhile (· ≠ '(')).tail else c :: kept

theorem takeBack_of_ne (h : c ≠ ')') : takeBack kept c = c :: kept := if_neg fun hc => h hc.1

theorem takeBack_of_notMem (h : '(' ∉ kept) : takeBack kept c = c :: kept := if_neg fun hc => h hc.2

/-- A parenthesis takes back nothing of what was kept before its partner. -/
theorem takeBack_close (h : '(' ∉ us) : takeBack (us ++ '(' :: kept) ')' = kept := by
  have hall : ∀ x ∈ us, decide (x ≠ '(') = true := fun x hx => decide_eq_true fun he => h (he ▸ hx)
  unfold takeBack
  rw [if_pos ⟨rfl, by simp⟩, List.dropWhile_append_of_pos hall]
  rfl

/-- Behind a text that closes as many groups as were open, nothing that was kept in them is left. -/
theorem foldl_takeBack_of_depth? (h : depth? n cs = some 0) (hkept : kept.count '(' = n) (base : List Char) :
    ∃ us, '(' ∉ us ∧ cs.foldl takeBack (kept ++ base) = us ++ base := by
  induction n, cs, h using depth?_induction generalizing kept with
  | nil => exact ⟨kept, List.count_eq_zero.mp hkept, rfl⟩
  | opened n cs _ ih =>
    have hopen : ('(' :: kept).count '(' = n + 1 := by rw [List.count_cons_self, hkept]
    rw [List.foldl_cons, takeBack_of_ne (by decide)]
    exact ih hopen
  | closed n cs _ ih =>
    have hmem : '(' ∈ kept := List.count_pos_iff.mp (by omega)
    obtain ⟨us, vs, rfl, hus⟩ := List.eq_append_cons_of_mem hmem
    have hvs : vs.count '(' = n := by
      rw [List.count_append, List.count_eq_zero.mpr hus, List.count_cons_self] at hkept
      omega
    have happend : us ++ '(' :: vs ++ base = us ++ '(' :: (vs ++ base) := by simp
    rw [List.foldl_cons, happend, takeBack_close hus]
    exact ih hvs
  | other n c cs hopen hclose _ ih =>
    have hcount : (c :: kept).count '(' = n := by rw [List.count_cons_of_ne hopen, hkept]
    rw [List.foldl_cons, takeBack_of_ne hclose]
    exact ih hcount

/-- **Deleting groups** does not change what the reader keeps. -/
theorem foldl_takeBack_of_leaves (h : Leaves cs ts) (kept : List Char) :
    cs.foldl takeBack kept = ts.foldl takeBack kept := by
  induction h generalizing kept with
  | nil => rfl
  | keep c _ ih => exact ih (takeBack kept c)
  | @group us cs ts hpaired _ ih =>
    have hbetween : ∃ inner, '(' ∉ inner ∧ us.foldl takeBack ([] ++ '(' :: kept) = inner ++ '(' :: kept :=
      foldl_takeBack_of_depth? hpaired rfl _
    obtain ⟨inner, hinner, hread⟩ := hbetween
    rw [List.nil_append] at hread
    rw [List.foldl_cons, takeBack_of_ne (by decide), List.foldl_append, hread, List.foldl_cons, takeBack_close hinner,
      ih]

/-- Where no parenthesis opens before another one closes, the reader takes nothing back. -/
theorem foldl_takeBack_of_settled (h : Settled (kept.reverse ++ cs)) :
    cs.foldl takeBack kept = cs.reverse ++ kept := by
  induction cs generalizing kept with
  | nil => rfl
  | cons c cs ih =>
    have hkeep : takeBack kept c = c :: kept := by
      by_cases hclose : c = ')'
      · refine takeBack_of_notMem fun hopen => h ?_
        subst hclose
        have hbefore : ['('] <+ kept.reverse := List.singleton_sublist.mpr (List.mem_reverse.mpr hopen)
        exact hbefore.append (List.singleton_sublist.mpr List.mem_cons_self)
      · exact takeBack_of_ne hclose
    have hrest : Settled ((c :: kept).reverse ++ cs) := by
      rw [List.reverse_cons, List.append_assoc]
      exact h
    rw [List.foldl_cons, hkeep, ih hrest, List.reverse_cons, List.append_assoc]
    rfl

/-- **What is left** when groups are deleted and none remains is one text, and the passes find it. -/
theorem dropAllGroups_eq_iff : dropAllGroups cs = ts ↔ Leaves cs ts ∧ Settled ts := by
  have hreader : ∀ ts, Leaves cs ts → Settled ts → ts.reverse = cs.foldl takeBack [] := by
    intro ts hleaves hsettled
    have hread : ts.foldl takeBack [] = ts.reverse ++ [] := foldl_takeBack_of_settled hsettled
    rw [foldl_takeBack_of_leaves hleaves, hread, List.append_nil]
  constructor
  · rintro rfl
    exact ⟨leaves_dropAllGroups cs, settled_dropAllGroups cs⟩
  · rintro ⟨hleaves, hsettled⟩
    refine List.reverse_injective ?_
    rw [hreader ts hleaves hsettled, hreader _ (leaves_dropAllGroups cs) (settled_dropAllGroups cs)]

/-! ## How many passes -/

/-- What is deleted opens a parenthesis. -/
theorem Leaves.eq_or_count_lt (h : Leaves cs ts) : ts = cs ∨ ts.count '(' < cs.count '(' := by
  induction h with
  | nil => exact .inl rfl
  | @keep c cs ts _ ih =>
    refine ih.imp (congrArg (c :: ·)) fun hlt => ?_
    rw [List.count_cons, List.count_cons]
    omega
  | @group us cs ts _ _ ih =>
    right
    rw [List.count_cons_self, List.count_append, List.count_cons]
    rcases ih with rfl | hlt <;> omega

/-- **How many passes it takes**: not more than there are opening parentheses.  Every pass but the last one changes the
text, and no later one does. -/
theorem exists_passes (cs : List Char) :
    ∃ n ≤ cs.count '(', dropGroups^[n] cs = dropAllGroups cs ∧
      ∀ m, dropGroups^[m + 1] cs = dropGroups^[m] cs ↔ n ≤ m := by
  refine dropAllGroups_induction (motive := fun cs ds => ∃ n ≤ cs.count '(', dropGroups^[n] cs = ds ∧
    ∀ m, dropGroups^[m + 1] cs = dropGroups^[m] cs ↔ n ≤ m) ?_ ?_ cs
  · intro cs hsettled
    have hfix : ∀ m, dropGroups^[m] cs = cs := Function.iterate_fixed hsettled
    exact ⟨0, Nat.zero_le _, rfl, fun m => by simp [hfix]⟩
  · rintro cs ds ⟨n, hcount, hpasses, hfirst⟩
    rcases (leaves_dropGroups cs).eq_or_count_lt with hsettled | hlt
    · rw [hsettled] at hcount hpasses hfirst
      exact ⟨n, hcount, hpasses, hfirst⟩
    · refine ⟨n + 1, by omega, hpasses, fun m => ?_⟩
      cases m with
      | zero =>
        -- the first pass deletes something
        have hne : dropGroups cs ≠ cs := fun he => by rw [he] at hlt; exact Nat.lt_irrefl _ hlt
        exact ⟨fun he => absurd he hne, fun hle => absurd hle (Nat.not_succ_le_zero n)⟩
      | succ m => exact (hfirst m).trans Nat.succ_le_succ_iff.symm

end DumpSummary.Record
