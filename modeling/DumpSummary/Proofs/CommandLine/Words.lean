import DumpSummary.CommandLine.Flag
import DumpSummary.Proofs.Outcome

/-!
# Command lines that are understood

A command line whose words all have a meaning has a simple form: flags with their values, and one operand among them;
or, where a command is expected, flags and then the command with all words behind it.  Such words are read from left to
right, and no others are read without a rest: a word that cannot be used is kept, and what is kept stays.

The reader decides by the words to come whether an operand is read at once or with the last words, and it expands what
is attached to short flags.  Both leave these forms as they are, provided that no short flag without a value does
anything but ask for help.

## Contents

* `readWords_nil`, `readWords_flag`, `expand_none`: what reading one word comes to;
* `Flags`, `readWords_flags`: words that are flags with their values;
* `Plain`, `exists_flag`, `exists_flags`: the flags at the beginning of words that are read;
* `readWords_other`, `extras_begin`: the words that are no flags;
* `Line`, `readWords_line`, `exists_line`: **whole command lines**;
* `readWords_command`, `exists_command`: **a command and its words.**
-/

namespace DumpSummary.CommandLine.Interface

/-! ## Flags with their values -/

/-- A flag takes a value that can be told from the separator and is none of the refused ones. -/
def Takes (f : Flag) (value : String) : Prop :=
  f.takesValue = true ∧ value ≠ "--" ∧ f.valueFault? value = none

/-- Words that are flags with their values. -/
inductive Flags : List (String × Word) → List (Flag × String) → Prop
  /-- No words. -/
  | nil : Flags [] []
  /-- A flag with its value attached. -/
  | attached {f w name value rest fs} (takes : Takes f value) (behind : Flags rest fs) :
    Flags ((w, .flag f name (some value)) :: rest) ((f, value) :: fs)
  /-- A flag with its value behind it. -/
  | separate {f w name value rest fs} (takes : Takes f value) (behind : Flags rest fs) :
    Flags ((w, .flag f name none) :: (value, .operand) :: rest) ((f, value) :: fs)
  /-- A flag without a value. -/
  | bare {f w name rest fs} (takes : f.takesValue = false) (help : f.rule ≠ .help) (behind : Flags rest fs) :
    Flags ((w, .flag f name none) :: rest) ((f, "") :: fs)

variable {i : Interface} {f : Flag} {w name value : String} {attached : Option String} {k : Word}
  {ws rest : List (String × Word)} {g g' : Given}

theorem takeValued_of_takes (h : Takes f value) (g : Given) :
    i.takeValued f value g = .ok { g with flags := g.flags ++ [(f, value)] } := by
  simp [takeValued, h.2.1, h.2.2]

theorem takes_of_takeValued (hf : f.takesValue = true) (h : i.takeValued f value g = .ok g') : Takes f value := by
  unfold takeValued at h
  split at h
  · cases h
  · rename_i hvalue
    split at h
    · cases h
    · rename_i hfault
      exact ⟨hf, by simpa using hvalue, hfault⟩

theorem readWords_nil : i.readWords [] g = i.readOperands [] g := rfl

theorem expand_none (i : Interface) (n : Nat) (f : Flag) (name : String) :
    i.expand n f name none = .ok (if f.takesValue then ⟨[], some (f, none)⟩ else ⟨[f], none⟩) := by
  cases n <;> rfl

theorem expand_of_takesValue (htakes : f.takesValue = true) (n : Nat) :
    i.expand (n + 1) f name (some value) = .ok ⟨[], some (f, some value)⟩ :=
  if_pos htakes

/-- A flag, with what it comes to. -/
theorem readWords_flag :
    i.readWords ((w, .flag f name attached) :: rest) g = (do
      let run ← i.expand (w.length + 1) f name attached
      match run.valued with
      | none => i.readWords rest (← i.takeBare run.bare g)
      | some (f, some value) => i.readWords rest (← i.takeValued f value (← i.takeBare run.bare g))
      | some (f, none) =>
        match rest with
        | (value, .operand) :: rest => i.readWords rest (← i.takeValued f value (← i.takeBare run.bare g))
        | _ => throw (.usage i.command (.noValue f.label))) := by
  have hflag : ¬ (!((w, Word.flag f name attached) :: rest).any (isFlag ·.2)) = true := by simp [isFlag]
  rw [readWords]
  exact if_neg hflag

theorem readWords_attached (h : Takes f value) :
    i.readWords ((w, .flag f name (some value)) :: rest) g
      = i.readWords rest { g with flags := g.flags ++ [(f, value)] } := by
  have htaken := takeValued_of_takes (i := i) h g
  rw [readWords_flag]
  simp [expand_of_takesValue h.1, takeBare, htaken, bind, Except.bind]

theorem readWords_separate (h : Takes f value) :
    i.readWords ((w, .flag f name none) :: (value, .operand) :: rest) g
      = i.readWords rest { g with flags := g.flags ++ [(f, value)] } := by
  have htaken := takeValued_of_takes (i := i) h g
  rw [readWords_flag]
  simp [expand_none, h.1, takeBare, htaken, bind, Except.bind]

theorem readWords_bare (htakes : f.takesValue = false) (hhelp : f.rule ≠ .help) :
    i.readWords ((w, .flag f name none) :: rest) g = i.readWords rest { g with flags := g.flags ++ [(f, "")] } := by
  rw [readWords_flag]
  simp [expand_none, htakes, takeBare, hhelp, bind, Except.bind]

/-- **Flags** are read one after another. -/
theorem readWords_flags {fs : List (Flag × String)} (h : Flags ws fs) (rest : List (String × Word)) (g : Given) :
    i.readWords (ws ++ rest) g = i.readWords rest { g with flags := g.flags ++ fs } := by
  induction h generalizing g with
  | nil => simp
  | attached takes _ ih =>
    rw [List.cons_append, readWords_attached takes, ih]
    simp
  | separate takes _ ih =>
    rw [List.cons_append, List.cons_append, readWords_separate takes, ih]
    simp
  | bare takes help _ ih =>
    rw [List.cons_append, readWords_bare takes help, ih]
    simp

/-- Every flag without a value asks for help, or its name is no short one that further ones could be attached to. -/
def Plain (i : Interface) : Prop :=
  ∀ e ∈ i.table, e.2.takesValue = false → e.2.rule = .help ∨ (e.1.toList.drop 1).head? = some '-'

/-- What is attached to a flag without a value is refused, or the flag asks for help. -/
theorem expand_of_bare (hname : f.rule = .help ∨ (name.toList.drop 1).head? = some '-') (htakes : f.takesValue = false)
    {n : Nat} {run : FlagRun} (h : i.expand n f name (some value) = .ok run) :
    run.bare.any (·.rule == .help) = true := by
  cases n with
  | zero => cases h
  | succ n =>
    rw [expand] at h
    simp only [htakes, Bool.false_eq_true, if_false] at h
    split at h
    · rename_i c more hshort hvalue
      rcases hname with hhelp | hlong
      · split at h
        · rename_i next hnext
          cases hmore : i.expand n next (String.ofList ['-', c])
              (if more.isEmpty = true then none else some (String.ofList more)) with
          | error e =>
            rw [hmore] at h
            cases h
          | ok r =>
            rw [hmore] at h
            cases h
            simp [hhelp]
        · cases h
      · exact absurd hlong (by simpa using hshort)
    · cases h

/-- A value that is attached to a flag is taken. -/
theorem takes_of_attached (htakes : f.takesValue = true)
    (h : i.readWords ((w, .flag f name (some value)) :: rest) g = .ok g') : Takes f value := by
  have hbare : i.takeBare [] g = .ok g := by simp [takeBare]
  rw [readWords_flag, expand_of_takesValue htakes] at h
  obtain ⟨run, hrun, h⟩ := exists_of_bind h
  cases hrun
  obtain ⟨g₁, hg₁, h⟩ := exists_of_bind h
  rw [hbare] at hg₁
  cases hg₁
  obtain ⟨g₂, htaken, -⟩ := exists_of_bind h
  exact takes_of_takeValued htakes htaken

/-- A flag that has no value takes the next word for it. -/
theorem takes_of_separate (htakes : f.takesValue = true) (h : i.readWords ((w, .flag f name none) :: rest) g = .ok g') :
    ∃ value more, rest = (value, .operand) :: more ∧ Takes f value := by
  have hbare : i.takeBare [] g = .ok g := by simp [takeBare]
  rw [readWords_flag, expand_none] at h
  simp only [htakes, if_true, bind, Except.bind, hbare] at h
  split at h
  · rename_i value more
    obtain ⟨g₁, htaken, -⟩ := exists_of_bind h
    exact ⟨value, more, rfl, takes_of_takeValued htakes htaken⟩
  · cases h

/-- A flag without a value does not ask for help, and nothing is attached to it. -/
theorem bare_of_readWords (hname : f.rule = .help ∨ (name.toList.drop 1).head? = some '-')
    (htakes : f.takesValue = false) (h : i.readWords ((w, .flag f name attached) :: rest) g = .ok g') :
    attached = none ∧ f.rule ≠ .help := by
  rw [readWords_flag] at h
  cases attached with
  | some value =>
    obtain ⟨run, hrun, h⟩ := exists_of_bind h
    have hhelp := expand_of_bare hname htakes hrun
    have hrefused : i.takeBare run.bare g = .error (.help i.command) := if_pos hhelp
    simp only [bind, Except.bind, hrefused] at h
    split at h
    · cases h
    · cases h
    · split at h <;> cases h
  | none =>
    refine ⟨rfl, fun hhelp => ?_⟩
    have hrefused : i.takeBare [f] g = .error (.help i.command) := if_pos (by simp [hhelp])
    simp only [expand_none, htakes, Bool.false_eq_true, if_false, bind, Except.bind, hrefused] at h
    cases h

/-- **A flag that is read** is one of those, with its value. -/
theorem exists_flag (hplain : i.Plain) (hname : (name, f) ∈ i.table)
    (h : i.readWords ((w, .flag f name attached) :: rest) g = .ok g') :
    ∃ ws more value, (w, .flag f name attached) :: rest = ws ++ more ∧ ws ≠ [] ∧ Flags ws [(f, value)] ∧
      i.readWords more { g with flags := g.flags ++ [(f, value)] } = .ok g' := by
  cases htakes : f.takesValue with
  | true =>
    cases attached with
    | some value =>
      have hvalue := takes_of_attached htakes h
      rw [readWords_attached hvalue] at h
      exact ⟨[_], rest, value, rfl, by simp, .attached hvalue .nil, h⟩
    | none =>
      obtain ⟨value, more, rfl, hvalue⟩ := takes_of_separate htakes h
      rw [readWords_separate hvalue] at h
      exact ⟨[_, _], more, value, rfl, by simp, .separate hvalue .nil, h⟩
  | false =>
    obtain ⟨rfl, hhelp⟩ := bare_of_readWords (hplain _ hname htakes) htakes h
    rw [readWords_bare htakes hhelp] at h
    exact ⟨[_], rest, "", rfl, by simp, .bare htakes hhelp .nil, h⟩

theorem Flags.append {ws us : List (String × Word)} {fs gs : List (Flag × String)} (h : Flags ws fs) (h' : Flags us gs) :
    Flags (ws ++ us) (fs ++ gs) := by
  induction h with
  | nil => exact h'
  | attached takes _ ih => exact .attached takes ih
  | separate takes _ ih => exact .separate takes ih
  | bare takes help _ ih => exact .bare takes help ih

/-- The flags among classified words are flags of the interface, by one of their names. -/
def Known (i : Interface) (ws : List (String × Word)) : Prop :=
  ∀ w f name attached, (w, .flag f name attached) ∈ ws → (name, f) ∈ i.table

theorem Known.mono (h : i.Known ws) (hsubset : rest ⊆ ws) : i.Known rest :=
  fun w f name attached hmem => h w f name attached (hsubset hmem)

/-- **The flags at the beginning** are read before anything else. -/
theorem exists_flags (hplain : i.Plain) (hknown : i.Known ws) (h : i.readWords ws g = .ok g') :
    ∃ us rest fs, ws = us ++ rest ∧ Flags us fs ∧
      i.readWords rest { g with flags := g.flags ++ fs } = .ok g' ∧
      ∀ w f name attached more, rest ≠ (w, .flag f name attached) :: more := by
  -- a flag takes its value with it, so the induction is on the number of words
  induction hn : ws.length using Nat.strongRecOn generalizing ws g with
  | ind n ih =>
    by_cases hhead : ∃ w f name attached rest, ws = (w, .flag f name attached) :: rest
    · obtain ⟨w, f, name, attached, rest, rfl⟩ := hhead
      obtain ⟨us, more, value, hws, hne, hflag, hread⟩ := exists_flag hplain (hknown w f name attached (by simp)) h
      have hshorter : more.length < n := by
        have hpos := List.length_pos_iff.mpr hne
        rw [← hn, hws, List.length_append]
        omega
      obtain ⟨vs, rest', fs, hmore, hflags, hread', hother⟩ :=
        ih more.length hshorter (hknown.mono (by simp [hws])) hread
          rfl
      refine ⟨us ++ vs, rest', (f, value) :: fs, by rw [hws, hmore, List.append_assoc], hflag.append hflags, ?_, hother⟩
      simpa using hread'
    · refine ⟨[], ws, [], rfl, .nil, by simpa using h, fun w f name attached more heq => ?_⟩
      exact hhead ⟨w, f, name, attached, more, heq⟩

/-! ## Words that are not understood -/

/-- Words that cannot be used are kept: what is kept already still is. -/
theorem extras_readOperands (h : i.readOperands ws g = .ok g') : g.extras <+: g'.extras := by
  unfold readOperands at h
  dsimp only at h
  split at h
  · cases h
    exact List.prefix_append _ _
  · split at h
    · split at h
      · cases h
        exact List.prefix_rfl
      · cases h
        exact List.prefix_append _ _
    · split at h
      · cases h
        exact List.prefix_rfl
      · cases h
        exact List.prefix_append _ _
    · cases h

/-- Where an operand is there already, all words are kept. -/
theorem readOperands_of_operand (h : g.operand ≠ []) (ws : List (String × Word)) :
    i.readOperands ws g = .ok { g with extras := g.extras ++ ws.map (·.1) } := by
  unfold readOperands
  simp [h]

/-- An operand has to be there. -/
theorem readOperands_nil (h : g.operand = []) : i.readOperands [] g = .error (.usage i.command (.missing i.operand)) := by
  unfold readOperands
  simp [h]

/-- Behind the last flag there are operands. -/
theorem readWords_of_no_flags (h : ws.any (isFlag ·.2) = false) : i.readWords ws g = i.readOperands ws g := by
  cases ws with
  | nil => rfl
  | cons x ws =>
    unfold readWords
    simp [h]

/-- An operand before flags. -/
theorem readWords_operand (hsub : i.subcommands = false) (hg : g.operand = []) (h : rest.any (isFlag ·.2) = true) :
    i.readWords ((w, .operand) :: rest) g = i.readWords rest { g with operand := [w] } := by
  rw [readWords]
  · simp [h, hg, hsub]
  · simp
  · simp

/-- A word that is no flag is an operand, or is kept. -/
theorem readWords_other (hflag : ∀ f name attached, k ≠ .flag f name attached)
    (h : i.readWords ((w, k) :: rest) g = .ok g') :
    i.readOperands ((w, k) :: rest) g = .ok g' ∧ k ≠ .unknown ∨
      i.readWords rest { g with extras := g.extras ++ [w] } = .ok g' ∨
      k ≠ .unknown ∧ rest.any (isFlag ·.2) = true ∧ g.operand = [] ∧
        (i.subcommands = true ∧ g' = { g with operand := w :: rest.map (·.1) } ∨
          i.subcommands = false ∧ i.readWords rest { g with operand := [w] } = .ok g') := by
  have hoperand : k ≠ .unknown → isFlag k = false := by
    intro hunknown
    cases k with
    | flag f name a => exact absurd rfl (hflag f name a)
    | unknown => exact absurd rfl hunknown
    | _ => rfl
  unfold readWords at h
  split at h
  · rename_i hnone
    simp only [List.any_cons, Bool.not_eq_true', Bool.or_eq_false_iff] at hnone
    refine .inl ⟨h, ?_⟩
    rintro rfl
    cases hnone.1
  · rename_i hsome
    split at h
    · rename_i f name attached
      exact absurd rfl (hflag f name attached)
    · exact .inr (.inl h)
    · rename_i hunknown
      split at h
      · rename_i hempty
        have hbehind : rest.any (isFlag ·.2) = true := by simpa [hoperand hunknown] using hsome
        refine .inr (.inr ⟨hunknown, hbehind, by simpa using hempty, ?_⟩)
        split at h
        · rename_i hsub
          cases h
          exact .inl ⟨hsub, rfl⟩
        · rename_i hsub
          exact .inr ⟨by simpa using hsub, h⟩
      · exact .inr (.inl h)

/-- **What has no meaning** is kept to the end. -/
theorem extras_begin (hplain : i.Plain) (hknown : i.Known ws) (h : i.readWords ws g = .ok g') :
    g.extras <+: g'.extras := by
  induction hn : ws.length using Nat.strongRecOn generalizing ws g with
  | ind n ih =>
    obtain ⟨us, rest, fs, hws, -, hread, hother⟩ := exists_flags hplain hknown h
    cases rest with
    | nil =>
      rw [readWords_nil] at hread
      exact (extras_readOperands hread :)
    | cons x rest =>
      obtain ⟨w, k⟩ := x
      have hshorter : rest.length < n := by
        rw [← hn, hws, List.length_append, List.length_cons]
        omega
      have hrest : i.Known rest := hknown.mono (by simp [hws])
      rcases readWords_other (fun f name a hk => hother w f name a rest (hk ▸ rfl)) hread with
        ⟨hoperands, -⟩ | hkept | ⟨-, -, -, ⟨-, rfl⟩ | ⟨-, hoperand⟩⟩
      · exact (extras_readOperands hoperands :)
      · exact (List.prefix_append _ _).trans (ih rest.length hshorter hrest hkept rfl)
      · exact List.prefix_rfl
      · exact (ih rest.length hshorter hrest hoperand rfl :)

/-- Where a word is kept, something is kept in the end. -/
theorem extras_ne_nil (hplain : i.Plain) (hknown : i.Known ws)
    (h : i.readWords ws { g with extras := g.extras ++ [w] } = .ok g') : g'.extras ≠ [] := by
  intro hextras
  have hbegin := extras_begin hplain hknown h
  rw [hextras, List.prefix_nil] at hbegin
  simp at hbegin

/-- **Behind an operand** all words are flags with their values, if every word has a meaning. -/
theorem flags_of_operand (hplain : i.Plain) (hknown : i.Known ws) (hoperand : g.operand ≠ [])
    (h : i.readWords ws g = .ok g') (hextras : g'.extras = []) :
    ∃ fs, Flags ws fs ∧ g' = { g with flags := g.flags ++ fs } := by
  obtain ⟨us, rest, fs, hws, hflags, hread, hother⟩ := exists_flags hplain hknown h
  cases rest with
  | nil =>
    have hend := readOperands_of_operand (i := i) (g := { g with flags := g.flags ++ fs }) hoperand []
    rw [readWords_nil, hend] at hread
    cases hread
    exact ⟨fs, by rwa [hws, List.append_nil], by simp⟩
  | cons x rest =>
    obtain ⟨w, k⟩ := x
    have hrest : i.Known rest := hknown.mono (by simp [hws])
    rcases readWords_other (fun f name a hk => hother w f name a rest (hk ▸ rfl)) hread with
      ⟨hoperands, -⟩ | hkept | ⟨-, -, hempty, -⟩
    · have hend := readOperands_of_operand (i := i) (g := { g with flags := g.flags ++ fs }) hoperand ((w, k) :: rest)
      rw [hend] at hoperands
      cases hoperands
      simp at hextras
    · exact absurd hextras (extras_ne_nil hplain hrest hkept)
    · exact absurd hempty hoperand

/-! ## Whole command lines -/

/-- Words that are an operand and flags with their values; the operand may be told from flags by a separator. -/
inductive Line : List (String × Word) → List (Flag × String) → String → Prop
  /-- An operand between flags. -/
  | between {us vs fs gs p} (before : Flags us fs) (behind : Flags vs gs) : Line (us ++ (p, .operand) :: vs) (fs ++ gs) p
  /-- An operand behind a separator. -/
  | separated {us fs s p} (before : Flags us fs) : Line (us ++ [(s, .separator), (p, .operand)]) fs p
  /-- An operand before a separator. -/
  | ended {us fs s p} (before : Flags us fs) : Line (us ++ [(p, .operand), (s, .separator)]) fs p

/-- **Such words** are read as their flags and their operand. -/
theorem readWords_line {fs : List (Flag × String)} {p : String} (hsub : i.subcommands = false) (h : Line ws fs p)
    (hg : g.operand = []) :
    i.readWords ws g = .ok { g with flags := g.flags ++ fs, operand := [p] } := by
  cases h with
  | @between us vs fs gs p before behind =>
    rw [readWords_flags before]
    cases hvs : vs.any (isFlag ·.2) with
    | false =>
      -- flags that begin with no flag are none
      have hnil : vs = [] ∧ gs = [] := by
        cases behind with
        | nil => exact ⟨rfl, rfl⟩
        | _ => simp [isFlag] at hvs
      obtain ⟨rfl, rfl⟩ := hnil
      rw [readWords_of_no_flags (by simp [isFlag])]
      simp [readOperands, hg, hsub]
    | true =>
      have hend := readWords_flags (i := i) behind [] { g with flags := g.flags ++ fs, operand := [p] }
      rw [List.append_nil] at hend
      have hoperand := readWords_operand (i := i) (w := p) (g := { g with flags := g.flags ++ fs }) hsub hg hvs
      rw [hoperand, hend, readWords_nil]
      simp [readOperands]
  | separated before =>
    rw [readWords_flags before, readWords_of_no_flags (by simp [isFlag])]
    simp [readOperands, hg, hsub]
  | ended before =>
    rw [readWords_flags before, readWords_of_no_flags (by simp [isFlag])]
    simp [readOperands, hg, hsub]

/-- Behind a separator there are operands only. -/
def Separated (ws : List (String × Word)) : Prop :=
  ws.Pairwise fun x y => x.2 = .separator → y.2 = .operand

/-- The last words are an operand, and possibly the separator before or behind it. -/
theorem line_of_readOperands (hsub : i.subcommands = false) (hseparated : Separated ws) (h : i.readOperands ws g = .ok g')
    (hextras : g'.extras = []) (hg : g.operand = []) : ∃ p, Line ws [] p ∧ g' = { g with operand := [p] } := by
  unfold readOperands at h
  simp only [hg, List.isEmpty_nil, Bool.not_true, Bool.false_eq_true, if_false, hsub] at h
  split at h
  · rename_i p rest
    cases h
    obtain ⟨hextras, hend⟩ := List.append_eq_nil_iff.mp hextras
    rw [List.map_eq_nil_iff] at hend
    split at hend
    · subst hend
      exact ⟨p, .ended .nil, by simp⟩
    · subst hend
      exact ⟨p, .between .nil .nil, by simp⟩
  · rename_i s p k rest
    cases h
    obtain ⟨hextras, hend⟩ := List.append_eq_nil_iff.mp hextras
    rw [List.map_eq_nil_iff] at hend
    subst hend
    have hk : k = .operand := (List.pairwise_cons.mp hseparated).1 (p, k) (by simp) rfl
    subst hk
    exact ⟨p, .separated .nil, by simp⟩
  · cases h

/-- Flags before such words. -/
theorem Flags.append_line {us : List (String × Word)} {fs gs : List (Flag × String)} {p : String} (h : Flags us fs)
    (hline : Line ws gs p) : Line (us ++ ws) (fs ++ gs) p := by
  cases hline with
  | between before behind =>
    rw [← List.append_assoc, ← List.append_assoc]
    exact .between (h.append before) behind
  | separated before =>
    rw [← List.append_assoc]
    exact .separated (h.append before)
  | ended before =>
    rw [← List.append_assoc]
    exact .ended (h.append before)

/-- **Words that are read without a rest** are such words. -/
theorem exists_line (hsub : i.subcommands = false) (hplain : i.Plain) (hknown : i.Known ws) (hseparated : Separated ws)
    (h : i.readWords ws g = .ok g') (hextras : g'.extras = []) (hg : g.operand = []) :
    ∃ fs p, Line ws fs p ∧ g' = { g with flags := g.flags ++ fs, operand := [p] } := by
  obtain ⟨us, rest, fs, hws, hflags, hread, hother⟩ := exists_flags hplain hknown h
  subst hws
  have hbehind : Separated rest := (List.pairwise_append.mp hseparated).2.1
  cases rest with
  | nil =>
    have hend := readOperands_nil (i := i) (g := { g with flags := g.flags ++ fs }) hg
    rw [readWords_nil, hend] at hread
    cases hread
  | cons x rest =>
    obtain ⟨w, k⟩ := x
    have hrest : i.Known rest := hknown.mono (by simp)
    rcases readWords_other (fun f name a hk => hother w f name a rest (hk ▸ rfl)) hread with
      ⟨hoperands, -⟩ | hkept | ⟨hunknown, hflag, -, ⟨hsub', -⟩ | ⟨-, hoperand⟩⟩
    · obtain ⟨p, hline, rfl⟩ := line_of_readOperands hsub hbehind hoperands hextras hg
      exact ⟨fs, p, by simpa using hflags.append_line hline, by simp⟩
    · exact absurd hextras (extras_ne_nil hplain hrest hkept)
    · rw [hsub] at hsub'
      cases hsub'
    · obtain ⟨gs, hgs, rfl⟩ := flags_of_operand hplain hrest (by simp) hoperand hextras
      cases k with
      | flag f name a => exact absurd rfl (hother w f name a rest)
      | unknown => exact absurd rfl hunknown
      | operand => exact ⟨fs ++ gs, w, .between hflags hgs, by simp⟩
      | separator =>
        -- no flag stands behind a separator
        obtain ⟨y, hy, hyflag⟩ := List.any_eq_true.mp hflag
        rw [(List.pairwise_cons.mp hbehind).1 y hy rfl] at hyflag
        cases hyflag

/-- **A command** takes all words behind it. -/
theorem readWords_command (hsub : i.subcommands = true) (hg : g.operand = []) :
    i.readWords ((w, .operand) :: rest) g = .ok { g with operand := w :: rest.map (·.1) } := by
  cases h : rest.any (isFlag ·.2) with
  | false =>
    rw [readWords_of_no_flags (by rw [List.any_cons, h]; rfl)]
    simp [readOperands, hg, hsub]
  | true =>
    rw [readWords]
    · simp [h, hg, hsub]
    · simp
    · simp

/-- **Words that begin with a command** are flags, the command, and what it takes. -/
theorem exists_command (hsub : i.subcommands = true) (hplain : i.Plain) (hknown : i.Known ws)
    (hword : ∀ w, (w, .separator) ∈ ws → w ≠ name) (h : i.readWords ws g = .ok g') (hextras : g'.extras = [])
    (hg : g.operand = []) {args : List String} (hname : g'.operand = name :: args) :
    ∃ us rest fs, ws = us ++ (name, .operand) :: rest ∧ Flags us fs ∧ rest.map (·.1) = args ∧
      g' = { g with flags := g.flags ++ fs, operand := name :: args } := by
  obtain ⟨us, rest, fs, hws, hflags, hread, hother⟩ := exists_flags hplain hknown h
  subst hws
  cases rest with
  | nil =>
    have hend := readOperands_nil (i := i) (g := { g with flags := g.flags ++ fs }) hg
    rw [readWords_nil, hend] at hread
    cases hread
  | cons x rest =>
    obtain ⟨w, k⟩ := x
    have hrest : i.Known rest := hknown.mono (by simp)
    have hfound : k ≠ .unknown ∧ g' = { g with flags := g.flags ++ fs, operand := w :: rest.map (·.1) } := by
      rcases readWords_other (fun f name a hk => hother w f name a rest (hk ▸ rfl)) hread with
        ⟨hoperands, hunknown⟩ | hkept | ⟨hunknown, -, -, ⟨-, rfl⟩ | ⟨hsub', -⟩⟩
      · refine ⟨hunknown, ?_⟩
        unfold readOperands at hoperands
        simp only [hg, List.isEmpty_nil, Bool.not_true, Bool.false_eq_true, if_false, hsub, if_true] at hoperands
        split at hoperands
        · cases hoperands
          rfl
        · cases hoperands
          rfl
        · cases hoperands
      · exact absurd hextras (extras_ne_nil hplain hrest hkept)
      · exact ⟨hunknown, rfl⟩
      · rw [hsub] at hsub'
        cases hsub'
    obtain ⟨hunknown, rfl⟩ := hfound
    obtain ⟨rfl, rfl⟩ := List.cons.inj hname
    cases k with
    | flag f name' a => exact absurd rfl (hother w f name' a rest)
    | unknown => exact absurd rfl hunknown
    | operand => exact ⟨us, rest, fs, rfl, hflags, rfl, rfl⟩
    | separator => exact absurd rfl (hword w (by simp))

end DumpSummary.CommandLine.Interface
