import DumpSummary.Proofs.CommandLine.Words

/-!
# Command lines without one of their flags

What a word is depends on the word alone, as long as no separator stands before it.  So a flag that takes values can be
left out of a command line, each time with its value: the other words stay what they are, and what is read from them is
what was read before, without the flag.

## Contents

* `mem_table_of_classify`, `classified`: what words are;
* `exists_of_classifyAll_cons`, `classifyAll_append`: classified words taken apart;
* `leaveOut`, `exists_classifyAll_leaveOut`: the words that are left;
* `Flags.leaveOut`, `Line.leaveOut`: flags and command lines that are left;
* `read_leaveOut`: **what is read from a command line without one of its flags.**
-/

namespace DumpSummary.CommandLine.Interface

variable {i j : Interface} {f : Flag} {w name p : String} {attached : Option String} {k c : Word}
  {words : List String} {ws us rest : List (String × Word)} {fs : List (Flag × String)}

/-! ## What words are -/

theorem mem_of_lookup {α β : Type} [BEq α] [LawfulBEq α] {l : List (α × β)} {a : α} {b : β} (h : l.lookup a = some b) :
    (a, b) ∈ l := by
  obtain ⟨before, behind, rfl, -⟩ := List.lookup_eq_some_iff.mp h
  simp

/-- What a word may be cut short from is in the table. -/
theorem mem_table_of_longMatches {value : Option String} (h : (name, f, value) ∈ i.longMatches w) :
    (name, f) ∈ i.table := by
  unfold longMatches at h
  obtain ⟨e, he, heq⟩ := List.mem_map.mp h
  cases heq
  exact (List.mem_filter.mp he).1

theorem mem_table_of_shortMatches {value : Option String} (h : (name, f, value) ∈ i.shortMatches w) :
    (name, f) ∈ i.table := by
  unfold shortMatches at h
  obtain ⟨e, he, heq⟩ := List.mem_filterMap.mp h
  split at heq
  · cases heq
    exact he
  · split at heq <;> cases heq
    exact he

/-- **What one word is**: a flag by one of its names, or an operand or nothing known, but no separator. -/
theorem mem_table_of_classify (h : i.classify w = .ok c) :
    c ≠ .separator ∧ ∀ f name attached, c = .flag f name attached → (name, f) ∈ i.table := by
  have hflag : ∀ {g : Flag} {n : String} {a : Option String}, (n, g) ∈ i.table →
      Word.flag g n a ≠ .separator ∧
        ∀ f name attached, Word.flag g n a = .flag f name attached → (name, f) ∈ i.table := by
    intro g n a hmem
    refine ⟨by simp, ?_⟩
    rintro f name attached ⟨⟩
    exact hmem
  unfold classify at h
  split at h
  · split at h
    · rename_i f hlookup
      cases h
      exact hflag (mem_of_lookup hlookup)
    · dsimp only at h
      split at h
      · rename_i exact hexact
        cases h
        obtain ⟨nv, -, hfound⟩ := Option.bind_eq_some_iff.mp hexact
        obtain ⟨f, hlookup, rfl⟩ := Option.map_eq_some_iff.mp hfound
        exact hflag (mem_of_lookup hlookup)
      · split at h
        · rename_i name f value hmatches
          cases h
          split at hmatches
          · exact hflag (mem_table_of_longMatches (hmatches ▸ List.mem_singleton.mpr rfl))
          · exact hflag (mem_table_of_shortMatches (hmatches ▸ List.mem_singleton.mpr rfl))
        · cases h
          split <;> simp
        · cases h
  · cases h
    simp

/-- A word that is no separator is what it is by itself. -/
theorem classifyAll_cons (hw : w ≠ "--") :
    i.classifyAll (w :: words) = .ok ws ↔
      ∃ c cs, ws = (w, c) :: cs ∧ i.classify w = .ok c ∧ i.classifyAll words = .ok cs := by
  rw [classifyAll, if_neg (by simpa using hw)]
  cases i.classify w with
  | error e => simp
  | ok c =>
    cases i.classifyAll words with
    | error e => simp [Except.map]
    | ok cs => simp [Except.map, eq_comm]

/-- **Words that are classified** keep their texts; their flags are those of the interface, and behind the separator,
which is two hyphens, there are operands only. -/
theorem classified (h : i.classifyAll words = .ok ws) :
    ws.map (·.1) = words ∧ i.Known ws ∧ Separated ws ∧ ∀ w, (w, .separator) ∈ ws → w = "--" := by
  induction words generalizing ws with
  | nil =>
    cases h
    exact ⟨rfl, fun _ _ _ _ hmem => absurd hmem List.not_mem_nil, .nil, by simp⟩
  | cons w words ih =>
    by_cases hw : w = "--"
    · subst hw
      cases h
      refine ⟨by simp [Function.comp_def], fun w f name a hmem => ?_, ?_, fun w hmem => ?_⟩
      · simp at hmem
      · refine List.pairwise_cons.mpr ⟨fun y hy _ => ?_, ?_⟩
        · obtain ⟨w, -, rfl⟩ := List.mem_map.mp hy
          rfl
        · refine List.pairwise_map.mpr (List.pairwise_of_forall fun _ _ hsep => ?_)
          cases hsep
      · simpa using hmem
    · obtain ⟨c, cs, rfl, hc, hcs⟩ := (classifyAll_cons hw).mp h
      obtain ⟨htexts, hknown, hseparated, hword⟩ := ih hcs
      obtain ⟨hplain, htable⟩ := mem_table_of_classify hc
      refine ⟨by rw [List.map_cons, htexts], fun w' f name a hmem => ?_, ?_, fun w' hmem => ?_⟩
      · rcases List.mem_cons.mp hmem with heq | hmem
        · cases heq
          exact htable f name a rfl
        · exact hknown w' f name a hmem
      · exact List.pairwise_cons.mpr ⟨fun y _ hsep => absurd hsep hplain, hseparated⟩
      · rcases List.mem_cons.mp hmem with heq | hmem
        · cases heq
          exact absurd rfl hplain
        · exact hword w' hmem

/-- The first of classified words, if it is no separator. -/
theorem exists_of_classifyAll_cons {x : String × Word} (h : i.classifyAll words = .ok (x :: ws))
    (hx : x.2 ≠ .separator) :
    ∃ words', words = x.1 :: words' ∧ x.1 ≠ "--" ∧ i.classify x.1 = .ok x.2 ∧ i.classifyAll words' = .ok ws := by
  cases words with
  | nil => cases h
  | cons w words =>
    by_cases hw : w = "--"
    · subst hw
      cases h
      exact absurd rfl hx
    · obtain ⟨c, cs, heq, hc, hcs⟩ := (classifyAll_cons hw).mp h
      obtain ⟨rfl, rfl⟩ := List.cons.inj heq
      exact ⟨words, rfl, hw, hc, hcs⟩

/-- Classified words without a separator, before other ones. -/
theorem classifyAll_append (h : i.classifyAll words = .ok (us ++ ws))
    (hus : ∀ x ∈ us, x.2 ≠ .separator) :
    ∃ words', words = us.map (·.1) ++ words' ∧ i.classifyAll words' = .ok ws ∧
      ∀ words'' ws'', i.classifyAll words'' = .ok ws'' → i.classifyAll (us.map (·.1) ++ words'') = .ok (us ++ ws'') := by
  induction us generalizing words with
  | nil => exact ⟨words, rfl, h, fun _ _ h => h⟩
  | cons x us ih =>
    obtain ⟨words, rfl, hx, hc, htail⟩ := exists_of_classifyAll_cons h (hus x (by simp))
    obtain ⟨words', rfl, hrest, hother⟩ := ih htail fun y hy => hus y (List.mem_cons_of_mem x hy)
    refine ⟨words', rfl, hrest, fun words'' ws'' h => ?_⟩
    exact (classifyAll_cons hx).mpr ⟨x.2, us ++ ws'', rfl, hc, hother words'' ws'' h⟩

/-! ## Leaving out a flag -/

/-- The words without a flag and its values; `pending` says that the next word is a value to be left out. -/
def leaveOut (i : Interface) (f : Flag) : Bool → List String → List String
  | _, [] => []
  | pending, w :: words =>
    if w = "--" then w :: words
    else if pending then i.leaveOut f false words
    else match i.classify w with
      | .ok (.flag g _ attached) =>
        if g = f then i.leaveOut f attached.isNone words else w :: i.leaveOut f false words
      | _ => w :: i.leaveOut f false words

/-- What is left of words is classified by every interface that classifies them. -/
theorem exists_classifyAll_leaveOut (pending : Bool) (h : j.classifyAll words = .ok ws) :
    ∃ us, j.classifyAll (i.leaveOut f pending words) = .ok us := by
  induction words generalizing pending ws with
  | nil => exact ⟨[], rfl⟩
  | cons w words ih =>
    by_cases hw : w = "--"
    · exact ⟨ws, by rw [leaveOut, if_pos hw, h]⟩
    · obtain ⟨c, cs, -, hc, hcs⟩ := (classifyAll_cons hw).mp h
      have hkept : ∃ us, j.classifyAll (w :: i.leaveOut f false words) = .ok us := by
        obtain ⟨us, hus⟩ := ih false hcs
        exact ⟨(w, c) :: us, (classifyAll_cons hw).mpr ⟨c, us, rfl, hc, hus⟩⟩
      rw [leaveOut, if_neg hw]
      split
      · exact ih false hcs
      · split
        · split
          · exact ih _ hcs
          · exact hkept
        · exact hkept

/-- A word that is kept. -/
theorem classifyAll_leaveOut_cons (hw : w ≠ "--") (hc : i.classify w = .ok c)
    (hother : ∀ name attached, c ≠ .flag f name attached) (h : i.classifyAll (i.leaveOut f false words) = .ok ws) :
    i.classifyAll (i.leaveOut f false (w :: words)) = .ok ((w, c) :: ws) := by
  have hkept : i.leaveOut f false (w :: words) = w :: i.leaveOut f false words := by
    rw [leaveOut, if_neg hw, hc]
    cases c with
    | flag g name attached =>
      have hne : g ≠ f := by
        rintro rfl
        exact hother name attached rfl
      simp [hne]
    | _ => simp
  rw [hkept]
  exact (classifyAll_cons hw).mpr ⟨c, ws, rfl, hc, h⟩

/-- **Flags without one of them** are the others. -/
theorem Flags.leaveOut (hf : f.takesValue = true) (h : Flags us fs) (hwords : i.classifyAll words = .ok (us ++ rest)) :
    ∃ words' us', i.classifyAll words' = .ok rest ∧ Flags us' (fs.filter (·.1 ≠ f)) ∧
      ∀ rest', i.classifyAll (i.leaveOut f false words') = .ok rest' →
        i.classifyAll (i.leaveOut f false words) = .ok (us' ++ rest') := by
  -- along the flags: what is behind them is left for the caller to supply, since it may be anything classified
  induction h generalizing words with
  | nil => exact ⟨words, [], hwords, .nil, fun rest' h => h⟩
  | @attached g w name value us fs takes _ ih =>
    obtain ⟨words, rfl, hw, hc, htail⟩ := exists_of_classifyAll_cons hwords (by simp)
    obtain ⟨words', us', hrest, hflags, hleft⟩ := ih htail
    by_cases hg : g = f
    · subst hg
      refine ⟨words', us', hrest, by simpa using hflags, fun rest' h => ?_⟩
      rw [Interface.leaveOut, if_neg hw, hc]
      simpa using hleft rest' h
    · refine ⟨words', (w, .flag g name (some value)) :: us', hrest, ?_, fun rest' h => ?_⟩
      · rw [List.filter_cons_of_pos (by simpa using hg)]
        exact .attached takes hflags
      · exact classifyAll_leaveOut_cons hw hc (fun n a heq => hg (by cases heq; rfl)) (hleft rest' h)
  | @separate g w name value us fs takes _ ih =>
    obtain ⟨words, rfl, hw, hc, htail⟩ := exists_of_classifyAll_cons hwords (by simp)
    obtain ⟨words, rfl, hvalue, hoperand, htail⟩ := exists_of_classifyAll_cons htail (by simp)
    obtain ⟨words', us', hrest, hflags, hleft⟩ := ih htail
    by_cases hg : g = f
    · subst hg
      refine ⟨words', us', hrest, by simpa using hflags, fun rest' h => ?_⟩
      rw [Interface.leaveOut, if_neg hw, hc]
      simpa [Interface.leaveOut, hvalue] using hleft rest' h
    · refine ⟨words', (w, .flag g name none) :: (value, .operand) :: us', hrest, ?_, fun rest' h => ?_⟩
      · rw [List.filter_cons_of_pos (by simpa using hg)]
        exact .separate takes hflags
      · have hbehind := classifyAll_leaveOut_cons hvalue hoperand (fun n a heq => by cases heq) (hleft rest' h)
        exact classifyAll_leaveOut_cons hw hc (fun n a heq => hg (by cases heq; rfl)) hbehind
  | @bare g w name us fs takes help _ ih =>
    obtain ⟨words, rfl, hw, hc, htail⟩ := exists_of_classifyAll_cons hwords (by simp)
    obtain ⟨words', us', hrest, hflags, hleft⟩ := ih htail
    have hg : g ≠ f := by
      rintro rfl
      rw [hf] at takes
      cases takes
    refine ⟨words', (w, .flag g name none) :: us', hrest, ?_, fun rest' h => ?_⟩
    · rw [List.filter_cons_of_pos (by simpa using hg)]
      exact .bare takes help hflags
    · exact classifyAll_leaveOut_cons hw hc (fun n a heq => hg (by cases heq; rfl)) (hleft rest' h)

/-- **A command line without one of its flags** has the others and the same operand. -/
theorem Line.leaveOut (hf : f.takesValue = true) (h : Line ws fs p) (hwords : i.classifyAll words = .ok ws) :
    ∃ us, i.classifyAll (i.leaveOut f false words) = .ok us ∧ Line us (fs.filter (·.1 ≠ f)) p := by
  cases h with
  | @between us vs fs gs p before behind =>
    obtain ⟨words₁, us', hoperand, hbefore, hleft⟩ := before.leaveOut hf hwords
    obtain ⟨words₂, rfl, hp, hc, hrest⟩ := exists_of_classifyAll_cons hoperand (by simp)
    rw [← List.append_nil vs] at hrest
    obtain ⟨words₃, vs', hnil, hbehind, hleft'⟩ := behind.leaveOut hf hrest
    have hwords₃ : words₃ = [] := by simpa using (classified hnil).1.symm
    subst hwords₃
    have htail := classifyAll_leaveOut_cons hp hc (f := f) (fun n a heq => by cases heq) (hleft' [] rfl)
    refine ⟨us' ++ (p, .operand) :: vs', ?_, ?_⟩
    · simpa using hleft _ htail
    · rw [List.filter_append]
      exact .between hbefore hbehind
  | @separated us fs s p before =>
    obtain ⟨words₁, us', htail, hbefore, hleft⟩ := before.leaveOut hf hwords
    obtain ⟨htexts, -, -, hword⟩ := classified htail
    have hs : s = "--" := hword s (by simp)
    subst hs
    subst htexts
    exact ⟨_, hleft _ htail, .separated hbefore⟩
  | @ended us fs s p before =>
    obtain ⟨words₁, us', hoperand, hbefore, hleft⟩ := before.leaveOut hf hwords
    obtain ⟨words₂, rfl, hp, hc, htail⟩ := exists_of_classifyAll_cons hoperand (by simp)
    obtain ⟨htexts, -, -, hword⟩ := classified htail
    have hs : s = "--" := hword s (by simp)
    subst hs
    subst htexts
    have hseparator : i.classifyAll (i.leaveOut f false ["--"]) = .ok [("--", .separator)] := rfl
    have hkept := classifyAll_leaveOut_cons hp hc (fun n a heq => by cases heq) hseparator
    exact ⟨_, hleft _ hkept, .ended hbefore⟩

/-- The flags that are read are flags of the interface. -/
theorem Flags.mem_flags (h : Flags ws fs) (hknown : i.Known ws) : ∀ e ∈ fs, e.1 ∈ i.flags := by
  have hhead : ∀ {w f name attached rest}, i.Known ((w, .flag f name attached) :: rest) → f ∈ i.flags := by
    intro w f name attached rest hknown
    obtain ⟨g, hg, hmem⟩ := List.mem_flatMap.mp (hknown w f name attached (by simp))
    obtain ⟨n, -, heq⟩ := List.mem_map.mp hmem
    cases heq
    exact hg
  induction h with
  | nil => simp
  | attached _ _ ih => exact List.forall_mem_cons.mpr ⟨hhead hknown, ih (hknown.mono (by simp))⟩
  | separate _ _ ih => exact List.forall_mem_cons.mpr ⟨hhead hknown, ih (hknown.mono (by simp))⟩
  | bare _ _ _ ih => exact List.forall_mem_cons.mpr ⟨hhead hknown, ih (hknown.mono (by simp))⟩

theorem Line.mem_flags (h : Line ws fs p) (hknown : i.Known ws) : ∀ e ∈ fs, e.1 ∈ i.flags := by
  cases h with
  | between before behind =>
    refine List.forall_mem_append.mpr ⟨before.mem_flags (hknown.mono (by simp)), ?_⟩
    exact behind.mem_flags (hknown.mono fun x hx => List.mem_append_right _ (List.mem_cons_of_mem _ hx))
  | separated before => exact before.mem_flags (hknown.mono (by simp))
  | ended before => exact before.mem_flags (hknown.mono (by simp))

/-- What is read without a rest is read from such words. -/
theorem exists_line_of_read {given : Given} (hsub : i.subcommands = false) (hplain : i.Plain)
    (h : i.read words = .ok given) (hextras : given.extras = []) :
    ∃ ws fs p, i.classifyAll words = .ok ws ∧ i.Known ws ∧ Line ws fs p ∧ given = ⟨fs, [p], []⟩ := by
  unfold read at h
  obtain ⟨ws, hws, h⟩ := exists_of_bind h
  obtain ⟨-, hknown, hseparated, -⟩ := classified hws
  obtain ⟨fs, p, hline, rfl⟩ := exists_line hsub hplain hknown hseparated h hextras rfl
  exact ⟨ws, fs, p, hws, hknown, hline, rfl⟩

/-- They are so where a whole command line is read. -/
theorem mem_flags_of_read {given : Given} (hsub : i.subcommands = false) (hplain : i.Plain)
    (h : i.read words = .ok given) (hextras : given.extras = []) : ∀ e ∈ given.flags, e.1 ∈ i.flags := by
  obtain ⟨ws, fs, p, -, hknown, hline, rfl⟩ := exists_line_of_read hsub hplain h hextras
  exact hline.mem_flags hknown

/-- **What is read from a command line without one of its flags.** -/
theorem read_leaveOut {given : Given} (hsub : i.subcommands = false) (hplain : i.Plain) (hf : f.takesValue = true)
    (h : i.read words = .ok given) (hextras : given.extras = []) :
    i.read (i.leaveOut f false words) = .ok { given with flags := given.flags.filter (·.1 ≠ f) } := by
  obtain ⟨ws, fs, p, hws, -, hline, rfl⟩ := exists_line_of_read hsub hplain h hextras
  obtain ⟨us, hus, hline'⟩ := hline.leaveOut hf hws
  unfold read
  rw [hus]
  exact (readWords_line hsub hline' rfl).trans (by simp)

end DumpSummary.CommandLine.Interface
