import DumpSummary.Text.Blank
import DumpSummary.Text.Word
import DumpSummary.Text.Caseless

/-!
# Type tags

The tag of a type is its text without parameters and sign words: groups in parentheses are deleted, innermost
first, until none is left; then the words `UNSIGNED`, `SIGNED` and `ZEROFILL` with the blanks before them; then
every run of blanks becomes one space.

## Contents

* `dropGroups`: one pass over the innermost groups;
* `dropAllGroups`: all passes;
* `dropModifiers`: the sign words;
* `tagText`: the whole normalization.
-/

namespace DumpSummary.Record

/-- Reads the inside of a group that opens no other group, up to its end; the rest after it. -/
def groupEnd? : List Char → Option (List Char)
  | [] => none
  | c :: cs => if c = ')' then some cs else if c = '(' then none else groupEnd? cs

/-- What follows a group is shorter than what follows its opening. -/
theorem length_of_groupEnd? {cs rest : List Char} (h : groupEnd? cs = some rest) : rest.length < cs.length := by
  induction cs with
  | nil => simp [groupEnd?] at h
  | cons c cs ih =>
    simp only [groupEnd?] at h
    split at h
    · cases h; simp
    · split at h
      · cases h
      · exact Nat.lt_trans (ih h) (by simp)

/-- Deletes every group that holds no other group, from left to right. -/
def dropGroups (cs : List Char) : List Char :=
  match cs with
  | [] => []
  | c :: cs =>
    if c = '(' then
      match _h : groupEnd? cs with
      | some rest => dropGroups rest
      | none => c :: dropGroups cs
    else c :: dropGroups cs
termination_by cs.length
decreasing_by
  · have := length_of_groupEnd? _h; simp; omega
  · simp
  · simp

/-- A pass never makes a text longer. -/
theorem length_dropGroups_le (cs : List Char) : (dropGroups cs).length ≤ cs.length := by
  fun_induction dropGroups cs with
  | case1 => simp
  | case2 cs rest h ih => have := length_of_groupEnd? h; simp; omega
  | case3 cs h ih => simp; omega
  | case4 c cs hc ih => simp; omega

/-- Deletes groups until none is left. -/
def dropAllGroups (cs : List Char) : List Char :=
  let once := dropGroups cs
  if once.length < cs.length then dropAllGroups once else once
termination_by cs.length

/-- The words that tell how numbers are signed and shown. -/
def modifierWords : List (List Char) :=
  ["UNSIGNED".toList, "SIGNED".toList, "ZEROFILL".toList]

/-- Reads one of the words at the head of a text, in any case and up to a word edge; the rest. -/
def modifierEnd? (cs : List Char) : Option (List Char) :=
  modifierWords.findSome? fun w =>
    let head := cs.take w.length
    let rest := cs.drop w.length
    if head.length = w.length && (head.zip w).all (fun p => Text.caseless p.1 == Text.caseless p.2)
        && !rest.head?.any Text.isWord then
      some rest
    else none

/-- What follows a sign word is shorter than the text that the word begins. -/
theorem length_of_modifierEnd? {cs rest : List Char} (h : modifierEnd? cs = some rest) :
    rest.length < cs.length := by
  obtain ⟨w, hw, h⟩ := List.exists_of_findSome?_eq_some h
  dsimp only at h
  split at h
  · rename_i hc
    cases h
    simp only [Bool.and_eq_true, decide_eq_true_eq, List.length_take] at hc
    have hpos : 0 < w.length := by
      simp only [modifierWords, List.mem_cons, List.not_mem_nil, or_false] at hw
      rcases hw with rfl | rfl | rfl <;> decide
    have := hc.1.1
    simp only [List.length_drop]
    omega
  · cases h

/-- Deletes the sign words that follow blanks, with those blanks. -/
def dropModifiers (cs : List Char) : List Char :=
  match cs with
  | [] => []
  | c :: cs =>
    if Text.isBlank c then
      match _h : modifierEnd? (cs.dropWhile Text.isBlank) with
      | some rest => dropModifiers rest
      | none => c :: dropModifiers cs
    else c :: dropModifiers cs
termination_by cs.length
decreasing_by
  · have := length_of_modifierEnd? _h
    have := (List.dropWhile_sublist Text.isBlank (l := cs)).length_le
    simp; omega
  · simp
  · simp

/-- A text with every run of blanks made one space, and none at its ends. -/
def collapseBlanks (cs : List Char) : List Char :=
  List.intercalate [' '] (Text.words cs)

/-- The tag in the text of a type. -/
def tagText (cs : List Char) : List Char :=
  collapseBlanks (dropModifiers (dropAllGroups cs))

end DumpSummary.Record
