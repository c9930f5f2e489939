import DumpSummary.Proofs.File.Write
import DumpSummary.Proofs.Text.LineEnds

/-!
# Files that differ in line ends

Two trees of files hold the same texts if at every place the same stands, or a file of the same text whose lines end
in another way.  A path leads to the same in both of them, and a write does the same to both.

## Contents

* `Entry.SameText`, `Found.SameText`, `FileTree.SameTexts`: the relations;
* `sameTexts_put`: one file whose lines end in one way or another;
* `SameTexts.find`: **what a path leads to**;
* `SameTexts.read`: the file at a path;
* `SameTexts.write`: **what a write does.**
-/

namespace DumpSummary

open Text

/-- What stands at two places is the same but for the line ends of a text. -/
inductive Entry.SameText : Entry → Entry → Prop
  /-- Directories stand there. -/
  | directory : SameText .directory .directory
  /-- Files of the same text stand there. -/
  | file {content content' : Bytes} (h : Text.SameText content content') : SameText (.file content) (.file content')

/-- What two paths lead to is the same but for the line ends of a text. -/
inductive Found.SameText : Found → Found → Prop
  /-- They lead to nothing. -/
  | nothing : SameText .nothing .nothing
  /-- They lead to nothing, because of a file on the way. -/
  | blocked : SameText .blocked .blocked
  /-- They lead to directories. -/
  | directory : SameText (.entry .directory) (.entry .directory)
  /-- They lead to files of the same text. -/
  | file {content content' : Bytes} (h : Text.SameText content content') :
      SameText (.entry (.file content)) (.entry (.file content'))

namespace FileTree

/-- At every place of two trees the same stands but for the line ends of texts. -/
def SameTexts (t t' : FileTree) : Prop :=
  ∀ place, Option.Rel Entry.SameText (t.at? place) (t'.at? place)

variable {t t' : FileTree}

/-- Nothing but line ends differs where nothing differs. -/
theorem rel_sameText_self (x : Option Entry) : Option.Rel Entry.SameText x x := by
  cases x with
  | none => exact .none
  | some x =>
    cases x with
    | file content => exact .some (.file (.bytes content))
    | directory => exact .some .directory

/-- **The line ends of a text at one place.** -/
theorem sameTexts_put (files : FileTree) (place : Path) {text : String} (h : '\r' ∉ text.toList) (e e' : LineEnd) :
    (files.put place (e.bytes text)).SameTexts (files.put place (e'.bytes text)) := by
  intro q
  -- the entries are at the same places, and only the new one may differ
  have hany : ∀ content, ((files.put place content).entries.any fun x => q.isAbove x.1)
      = ((files.entries.filter (·.1 != place)).any (fun x => q.isAbove x.1) || q.isAbove place) := by
    intro content
    rw [put, List.any_append, List.any_cons, List.any_nil, Bool.or_false]
  have hlookup : ∀ content, (files.put place content).entries.lookup q
      = ((files.entries.filter (·.1 != place)).lookup q).or (if q = place then some (.file content) else none) := by
    intro content
    rw [put, List.lookup_append, List.lookup_cons]
    by_cases hq : q = place
    · simp [hq]
    · simp [hq, beq_false_of_ne hq]
  unfold at?
  rw [hany, hany, hlookup, hlookup]
  split
  · exact rel_sameText_self _
  · by_cases hq : q = place
    · cases (files.entries.filter (·.1 != place)).lookup q with
      | some x => exact rel_sameText_self _
      | none =>
        simp only [hq, if_true, Option.none_or]
        exact .some (.file (.lines h e e'))
    · simp only [hq, if_false]
      exact rel_sameText_self _

/-! ## What a path leads to -/

/-- **Names lead to the same** but for line ends. -/
theorem SameTexts.walk (h : t.SameTexts t') (place : Path) (names : List String) :
    (t.walk place names).SameText (t'.walk place names) := by
  induction names generalizing place with
  | nil =>
    have hplace := h place
    rw [FileTree.walk, FileTree.walk]
    generalize t.at? place = x at hplace ⊢
    generalize t'.at? place = y at hplace ⊢
    cases hplace with
    | none => exact .nothing
    | some hentry =>
      cases hentry with
      | directory => exact .directory
      | file htext => exact .file htext
  | cons name names ih =>
    have hplace := h place
    rw [FileTree.walk, FileTree.walk]
    generalize t.at? place = x at hplace ⊢
    generalize t'.at? place = y at hplace ⊢
    cases hplace with
    | none => exact .nothing
    | some hentry =>
      cases hentry with
      | directory => exact ih _
      | file htext => exact .blocked

/-- **A path leads to the same** but for line ends. -/
theorem SameTexts.find (h : t.SameTexts t') (p : Path) : (t.find p).SameText (t'.find p) :=
  h.walk _ _

theorem SameTexts.holds (h : t.SameTexts t') (p : Path) : t.holds p = t'.holds p := by
  have hfind := h.find p
  unfold FileTree.holds
  generalize t.find p = x at hfind ⊢
  generalize t'.find p = y at hfind ⊢
  cases hfind <;> rfl

/-- What can be read is there. -/
theorem holds_of_read {files : FileTree} {p : Path} {content : Bytes} (h : files.read p = .ok content) :
    files.holds p = true := by
  unfold FileTree.read at h
  unfold FileTree.holds
  split at h
  · rename_i hfind
    rw [hfind]
  · cases h
  · cases h
  · cases h

/-- The file at a path cannot be read, or it is a file of the same text. -/
theorem SameTexts.read (h : t.SameTexts t') (p : Path) :
    (∃ f, t.read p = .error f ∧ t'.read p = .error f) ∨
      ∃ content content', t.read p = .ok content ∧ t'.read p = .ok content' ∧ SameText content content' := by
  have hfind := h.find p
  unfold FileTree.read
  generalize t.find p = x at hfind ⊢
  generalize t'.find p = y at hfind ⊢
  cases hfind with
  | nothing => exact .inl ⟨_, rfl, rfl⟩
  | blocked => exact .inl ⟨_, rfl, rfl⟩
  | directory => exact .inl ⟨_, rfl, rfl⟩
  | file htext => exact .inr ⟨_, _, rfl, rfl, htext⟩

/-! ## What a write does -/

/-- A write fails, or it puts the file at its place. -/
theorem SameTexts.write_cases (h : t.SameTexts t') (p : Path) (content : Bytes) :
    (∃ f, t.write p content = .error f ∧ t'.write p content = .error f) ∨
      t.write p content = .ok (t.put (place p) content) ∧ t'.write p content = .ok (t'.put (place p) content) := by
  have hfind := h.find p
  have hparent := h.find p.parent
  unfold FileTree.write
  generalize t.find p = x at hfind ⊢
  generalize t'.find p = y at hfind ⊢
  generalize t.find p.parent = z at hparent ⊢
  generalize t'.find p.parent = w at hparent ⊢
  cases hfind with
  | nothing =>
    -- a new file: what matters is where the path without its last name leads to
    cases hparent with
    | nothing => exact .inl ⟨_, rfl, rfl⟩
    | blocked => exact .inl ⟨_, rfl, rfl⟩
    | directory => exact .inr ⟨rfl, rfl⟩
    | file htext => exact .inl ⟨_, rfl, rfl⟩
  | blocked => exact .inl ⟨_, rfl, rfl⟩
  | directory => exact .inl ⟨_, rfl, rfl⟩
  | file htext => exact .inr ⟨rfl, rfl⟩

/-- **A write** fails, or it leaves the same texts. -/
theorem SameTexts.write (h : t.SameTexts t') (p : Path) (content : Bytes) :
    (∃ f, t.write p content = .error f ∧ t'.write p content = .error f) ∨
      ∃ after after', t.write p content = .ok after ∧ t'.write p content = .ok after' ∧ after.SameTexts after' := by
  rcases h.write_cases p content with hfails | ⟨hwrite, hwrite'⟩
  · exact .inl hfails
  · refine .inr ⟨_, _, hwrite, hwrite', fun q => ?_⟩
    by_cases hq : q = place p
    · rw [hq, at?_put_self (put_of_write hwrite).2.2.1, at?_put_self (put_of_write hwrite').2.2.1]
      exact rel_sameText_self _
    · rw [at?_write hwrite hq, at?_write hwrite' hq]
      exact h q

end FileTree
end DumpSummary
