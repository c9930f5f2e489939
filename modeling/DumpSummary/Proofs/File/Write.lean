import DumpSummary.File.Tree

/-!
# What a write does

A write that succeeds puts the text at the place of its path and changes nothing else: what stands at any other place
still does, and the path then leads to the text.  For that the way to the file must not lead through the file itself;
it does not, since every name on the way stands in a directory.

## Contents

* `Path.isAbove_iff`, `isAbove_next`: the places above a place;
* `FileTree.Leads`: names that lead through directories;
* `at?_put_self`, `at?_put_of_ne`: a file at a place;
* `put_of_write`: what a write comes to;
* `read_write`, `at?_write`: **a write is read back, and it changes no other place.**
-/

namespace DumpSummary

/-- What one path has to have for another one to begin with it. -/
theorem Path.isAbove_iff {p q : Path} :
    p.isAbove q = true ↔ p.root = q.root ∧ p.names.length < q.names.length ∧ p.names <+: q.names := by
  simp [isAbove, and_assoc]

theorem Path.isAbove_trans {p q r : Path} (hpq : p.isAbove q = true) (hqr : q.isAbove r = true) :
    p.isAbove r = true := by
  rw [isAbove_iff] at *
  exact ⟨hpq.1.trans hqr.1, Nat.lt_trans hpq.2.1 hqr.2.1, hpq.2.2.trans hqr.2.2⟩

namespace FileTree

variable {t after : FileTree} {p q r : Path} {names : List String} {content : Bytes} {e : Entry}

/-! ## The way to a file -/

/-- The place that a name leads to. -/
def next (place : Path) (name : String) : Path := if name = ".." then place.up else place.child name

/-- Above the next place there are this place and those above it, at most. -/
theorem isAbove_next {name : String} (h : q.isAbove (next r name) = true) : q = r ∨ q.isAbove r = true := by
  have hchild : ∀ n, q.isAbove (r.child n) = true → q = r ∨ q.isAbove r = true := by
    intro n h
    obtain ⟨hroot, hlength, hbegin⟩ := Path.isAbove_iff.mp h
    rw [Path.child, List.length_append, List.length_singleton] at hlength
    rcases List.prefix_concat_iff.mp hbegin with heq | hbegin
    · rw [heq, List.length_append, List.length_singleton] at hlength
      omega
    · rcases Nat.lt_or_ge q.names.length r.names.length with hlt | hge
      · exact .inr (Path.isAbove_iff.mpr ⟨hroot, hlt, hbegin⟩)
      · left
        cases q
        cases r
        exact Path.mk.injEq .. |>.mpr ⟨hroot, hbegin.eq_of_length_le hge⟩
  have hparent : q.isAbove r.parent = true → q.isAbove r = true := by
    intro h
    obtain ⟨hroot, hlength, hbegin⟩ := Path.isAbove_iff.mp h
    have hle : r.parent.names.length ≤ r.names.length := (List.dropLast_prefix r.names).length_le
    exact Path.isAbove_iff.mpr ⟨hroot, Nat.lt_of_lt_of_le hlength hle, hbegin.trans (List.dropLast_prefix r.names)⟩
  unfold next Path.up at h
  split at h
  · split at h
    · exact hchild _ h
    · exact .inr (hparent h)
  · exact hchild _ h

/-- Every name leads on from a directory. -/
def Leads (t : FileTree) : Path → List String → Prop
  | _, [] => True
  | q, name :: names => t.at? q = some .directory ∧ t.Leads (next q name) names

/-- Names that lead through directories lead to what stands at the last place. -/
theorem walk_of_leads (h : t.Leads q names) :
    t.walk q names = match t.at? (names.foldl next q) with
      | some e => .entry e
      | none => .nothing := by
  induction names generalizing q with
  | nil => rfl
  | cons name names ih =>
    rw [walk, h.1]
    exact ih h.2

/-- Only such names lead to something. -/
theorem leads_of_walk (h : t.walk q names = .entry e) :
    t.Leads q names ∧ t.at? (names.foldl next q) = some e := by
  induction names generalizing q with
  | nil =>
    rw [walk] at h
    split at h
    · rename_i e' he
      cases h
      exact ⟨trivial, he⟩
    · cases h
  | cons name names ih =>
    rw [walk] at h
    split at h
    · rename_i hdirectory
      have hrest := ih h
      exact ⟨⟨hdirectory, hrest.1⟩, hrest.2⟩
    · cases h
    · cases h

theorem Leads.concat (h : t.Leads q names) (hlast : t.at? (names.foldl next q) = some .directory) (name : String) :
    t.Leads q (names ++ [name]) := by
  induction names generalizing q with
  | nil => exact ⟨hlast, trivial⟩
  | cons n names ih => exact ⟨h.1, ih h.2 hlast⟩

/-- Names lead on where the directories are still there. -/
theorem Leads.mono (hkept : ∀ q, t.at? q = some .directory → after.at? q = some .directory) (h : t.Leads q names) :
    after.Leads q names := by
  induction names generalizing q with
  | nil => trivial
  | cons n names ih => exact ⟨hkept q h.1, ih h.2⟩

/-! ## A file at a place -/

/-- Something stands at a place that has an entry, or has one below it. -/
theorem at?_ne_none_iff (hdots : ¬ q.names.all (· == "..") = true) :
    t.at? q ≠ none ↔ ∃ x ∈ t.entries, q = x.1 ∨ q.isAbove x.1 = true := by
  rw [at?, if_neg hdots]
  constructor
  · intro h
    split at h
    · rename_i e hlookup
      obtain ⟨before, behind, hentries, -⟩ := List.lookup_eq_some_iff.mp hlookup
      exact ⟨(q, e), hentries ▸ by simp, .inl rfl⟩
    · split at h
      · rename_i hany
        obtain ⟨x, hx, hqx⟩ := List.any_eq_true.mp hany
        exact ⟨x, hx, .inr hqx⟩
      · exact absurd rfl h
  · rintro ⟨x, hx, heq | habove⟩
    · cases hlookup : t.entries.lookup q with
      | some e => simp
      | none => exact absurd heq (bne_iff_ne.mp (List.lookup_eq_none_iff.mp hlookup x hx))
    · have hany : (t.entries.any fun e => q.isAbove e.1) = true := List.any_eq_true.mpr ⟨x, hx, habove⟩
      rw [hany]
      split <;> simp

/-- Something stands above whatever is there. -/
theorem at?_of_isAbove (habove : q.isAbove r = true) (h : t.at? r ≠ none) : t.at? q ≠ none := by
  have hbegin := (Path.isAbove_iff.mp habove).2.2
  by_cases hdots : q.names.all (· == "..") = true
  · simp [at?, hdots]
  · have hdots' : ¬ r.names.all (· == "..") = true := by
      intro hall
      exact hdots (List.all_eq_true.mpr fun n hn => List.all_eq_true.mp hall n (hbegin.subset hn))
    obtain ⟨x, hx, hrx⟩ := (at?_ne_none_iff hdots').mp h
    refine (at?_ne_none_iff hdots).mpr ⟨x, hx, .inr ?_⟩
    rcases hrx with rfl | hrx
    · exact habove
    · exact Path.isAbove_trans habove hrx

/-- The entries at other places, after the one at a place is dropped. -/
theorem lookup_filter_ne {entries : List (Path × Entry)} (h : q ≠ r) :
    (entries.filter (·.1 != r)).lookup q = entries.lookup q := by
  induction entries with
  | nil => rfl
  | cons x entries ih =>
    by_cases hx : x.1 = r
    · have hq : (q == x.1) = false := beq_false_of_ne (hx ▸ h)
      rw [List.filter_cons_of_neg (by simp [hx]), ih, List.lookup_cons, hq]
    · rw [List.filter_cons_of_pos (by simp [hx]), List.lookup_cons, List.lookup_cons, ih]

/-- **What is put at a place** stands there. -/
theorem at?_put_self (h : t.at? r ≠ some .directory) : (t.put r content).at? r = some (.file content) := by
  have hdots : ¬ r.names.all (· == "..") = true := by
    intro hall
    exact h (if_pos hall)
  have hnone : (t.entries.filter (·.1 != r)).lookup r = none := by
    rw [List.lookup_eq_none_iff]
    intro x hx
    have hne := (List.mem_filter.mp hx).2
    simp only [bne_iff_ne] at hne
    exact bne_iff_ne.mpr (Ne.symm hne)
  rw [at?, if_neg hdots, put, List.lookup_append, hnone]
  simp

/-- **It changes no other place**, if there is something above it already. -/
theorem at?_put_of_ne (hq : q ≠ r) (habove : q.isAbove r = true → t.at? q ≠ none) :
    (t.put r content).at? q = t.at? q := by
  by_cases hdots : q.names.all (· == "..") = true
  · rw [at?, at?, if_pos hdots, if_pos hdots]
  · have hlookup : (t.put r content).entries.lookup q = t.entries.lookup q := by
      rw [put, List.lookup_append, lookup_filter_ne hq, List.lookup_cons, beq_false_of_ne hq]
      simp
    rw [at?, at?, if_neg hdots, if_neg hdots, hlookup]
    cases hfound : t.entries.lookup q with
    | some e => rfl
    | none =>
      have hany : ((t.put r content).entries.any fun e => q.isAbove e.1) = t.entries.any fun e => q.isAbove e.1 := by
        rw [Bool.eq_iff_iff, List.any_eq_true, List.any_eq_true]
        constructor
        · rintro ⟨x, hx, hqx⟩
          rcases List.mem_append.mp hx with hx | hx
          · exact ⟨x, (List.mem_filter.mp hx).1, hqx⟩
          · -- what stands above the new file has an entry below it already
            rw [List.mem_singleton] at hx
            subst hx
            obtain ⟨y, hy, rfl | hqy⟩ := (at?_ne_none_iff hdots).mp (habove hqx)
            · exact absurd rfl (bne_iff_ne.mp (List.lookup_eq_none_iff.mp hfound y hy))
            · exact ⟨y, hy, hqy⟩
        · rintro ⟨x, hx, hqx⟩
          by_cases hxr : x.1 = r
          · exact ⟨(r, .file content), List.mem_append_right _ List.mem_cons_self, hxr ▸ hqx⟩
          · exact ⟨x, List.mem_append_left _ (List.mem_filter.mpr ⟨hx, by simpa using hxr⟩), hqx⟩
      dsimp only
      rw [hany]

/-! ## Writing -/

/-- **A write** puts a file at the place of its path, to which directories lead; no directory stood there, and
something stood at every place above. -/
theorem put_of_write (h : t.write p content = .ok after) :
    after = t.put (place p) content ∧ t.Leads ⟨p.root, []⟩ p.names ∧ t.at? (place p) ≠ some .directory ∧
      ∀ q, q.isAbove (place p) = true → t.at? q ≠ none := by
  unfold write at h
  split at h
  · -- a file is written over
    rename_i old hfind
    cases h
    obtain ⟨hleads, hfile⟩ := leads_of_walk hfind
    change t.at? (place p) = _ at hfile
    refine ⟨rfl, hleads, by simp [hfile], fun q hq => at?_of_isAbove hq (by simp [hfile])⟩
  · cases h
  · cases h
  · -- nothing is there, and the names without the last lead to a directory
    rename_i hnothing
    split at h
    · rename_i hparent
      cases h
      obtain ⟨hleads, hdirectory⟩ := leads_of_walk hparent
      rcases List.eq_nil_or_concat p.names with hnil | ⟨names, name, hnames⟩
      · -- the path of no names leads to a directory
        rw [find, hnil, walk, at?] at hnothing
        simp at hnothing
      · rw [List.concat_eq_append] at hnames
        have hinit : p.parent.names = names := by rw [Path.parent, hnames, List.dropLast_concat]
        rw [hinit] at hleads hdirectory
        have hplace : place p = next (names.foldl next ⟨p.root, []⟩) name := by
          show p.names.foldl next ⟨p.root, []⟩ = _
          rw [hnames, List.foldl_append]
          rfl
        have hway : t.Leads ⟨p.root, []⟩ p.names := by
          rw [hnames]
          exact hleads.concat hdirectory name
        refine ⟨rfl, hway, fun hdir => ?_, fun q hq => ?_⟩
        · rw [find, walk_of_leads hway] at hnothing
          change (match t.at? (place p) with | some e => Found.entry e | none => .nothing) = _ at hnothing
          rw [hdir] at hnothing
          cases hnothing
        · rw [hplace] at hq
          change t.at? (names.foldl next ⟨p.root, []⟩) = _ at hdirectory
          rcases isAbove_next hq with rfl | habove
          · simp [hdirectory]
          · exact at?_of_isAbove habove (by simp [hdirectory])
    · cases h

/-- **A write changes no other place.** -/
theorem at?_write (h : t.write p content = .ok after) (hq : q ≠ place p) : after.at? q = t.at? q := by
  obtain ⟨rfl, -, -, habove⟩ := put_of_write h
  exact at?_put_of_ne hq (habove q)

/-- **What is written is read back**, by the same path. -/
theorem read_write (h : t.write p content = .ok after) : after.read p = .ok content := by
  have hkept : ∀ q, t.at? q = some .directory → after.at? q = some .directory := by
    intro q hdir
    have hne : q ≠ place p := by
      rintro rfl
      exact (put_of_write h).2.2.1 hdir
    rw [at?_write h hne, hdir]
  obtain ⟨rfl, hleads, hfree, -⟩ := put_of_write h
  have hfile : (t.put (place p) content).at? (p.names.foldl next ⟨p.root, []⟩) = some (.file content) :=
    at?_put_self hfree
  rw [read, find, walk_of_leads (hleads.mono hkept), hfile]

end FileTree
end DumpSummary
