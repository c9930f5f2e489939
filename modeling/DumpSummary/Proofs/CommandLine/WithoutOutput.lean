import DumpSummary.CommandLine.Invocation
import DumpSummary.Proofs.CommandLine.LeaveOut

/-!
# The command line that prints a summary

A command line that names a file to write to asks for the same as the one without this flag, but for the file.  The flag
stands among the words of the command, which the words before the command do not depend on.

## Contents

* `value?_filter_ne`, `value?_filter_self`: the values of flags when one of them is left out;
* `read_take_append`: **other words for a command**;
* `exists_read_of_ofWords`, `ofWords_analyze`: what a command line asks for;
* `withoutOutput`, `ofWords_withoutOutput`: **the command line without the flag.**
-/

namespace DumpSummary.CommandLine

open Interface

variable {f : Flag} {name : String} {words : List String}

/-- Without a flag, the values of all other ones are the same. -/
theorem value?_filter_ne (hname : f.names.contains name = false) (g : Given) :
    ({ g with flags := g.flags.filter (·.1 ≠ f) } : Given).value? name = g.value? name := by
  unfold Given.value?
  rw [← List.filter_reverse, List.find?_filter]
  congr 2
  funext e
  by_cases he : e.1 = f
  · simp [he]
    simpa using hname
  · simp [he]

/-- A name that no given flag has has no value. -/
theorem value?_eq_none {g : Given} (h : ∀ e ∈ g.flags, e.1.names.contains name = false) : g.value? name = none := by
  unfold Given.value?
  rw [Option.map_eq_none_iff, List.find?_eq_none]
  intro e he
  rw [h e (List.mem_reverse.mp he)]
  decide

/-- The flag that is left out has no value. -/
theorem value?_filter_self {i : Interface} {g : Given} (hflags : ∀ e ∈ g.flags, e.1 ∈ i.flags)
    (hname : ∀ h ∈ i.flags, h ≠ f → h.names.contains name = false) :
    ({ g with flags := g.flags.filter (·.1 ≠ f) } : Given).value? name = none := by
  refine value?_eq_none fun e he => ?_
  obtain ⟨he, hne⟩ := List.mem_filter.mp he
  exact hname e.1 (hflags e he) (by simpa using hne)

/-! ## The words of a command -/

/-- No separator is among flags with their values. -/
theorem ne_separator_of_flags {us : List (String × Word)} {fs : List (Flag × String)} (h : Flags us fs) :
    ∀ x ∈ us, x.2 ≠ .separator := by
  induction h with
  | nil => simp
  | attached _ _ ih => simpa using ih
  | separate _ _ ih => simpa using ih
  | bare _ _ _ ih => simpa using ih

/-- **The words of a command** can be replaced, if the new ones are classified as the old ones are. -/
theorem read_take_append {i : Interface} {main : Given} {args args' : List String} (hsub : i.subcommands = true)
    (hplain : i.Plain) (h : i.read words = .ok main) (hextras : main.extras = []) (hoperand : main.operand = name :: args)
    (hname : name ≠ "--") (hargs : ∀ ws, i.classifyAll args = .ok ws → ∃ us, i.classifyAll args' = .ok us) :
    i.read (words.take (words.length - args.length) ++ args') = .ok { main with operand := name :: args' } := by
  unfold Interface.read at h
  obtain ⟨ws, hws, h⟩ := exists_of_bind h
  obtain ⟨-, hknown, -, hword⟩ := classified hws
  have hseparator : ∀ w, (w, .separator) ∈ ws → w ≠ name := by
    intro w hmem hw
    exact hname (hw ▸ hword w hmem)
  obtain ⟨us, rest, fs, rfl, hflags, rfl, rfl⟩ := exists_command hsub hplain hknown hseparator h hextras rfl hoperand
  have hplain' : ∀ x ∈ us ++ [(name, Word.operand)], x.2 ≠ .separator := by
    intro x hx
    rcases List.mem_append.mp hx with hx | hx
    · exact ne_separator_of_flags hflags x hx
    · rw [List.mem_singleton] at hx
      simp [hx]
  have hsplit : us ++ (name, Word.operand) :: rest = (us ++ [(name, .operand)]) ++ rest := by simp
  rw [hsplit] at hws
  obtain ⟨words', rfl, hrest, hother⟩ := classifyAll_append hws hplain'
  have htexts := (classified hrest).1
  obtain ⟨ws', hws'⟩ := hargs rest (htexts ▸ hrest)
  -- what is taken of the words ends in the name of the command
  have htake : ((us ++ [(name, Word.operand)]).map (·.1) ++ words').take
      (((us ++ [(name, Word.operand)]).map (·.1) ++ words').length - (rest.map (·.1)).length)
      = (us ++ [(name, Word.operand)]).map (·.1) := by
    rw [htexts, List.length_append, Nat.add_sub_cancel]
    exact List.take_left
  rw [htake]
  unfold Interface.read
  rw [hother args' ws' hws']
  show i.readWords ((us ++ [(name, .operand)]) ++ ws') _ = _
  rw [List.append_assoc, List.singleton_append, readWords_flags hflags]
  refine (readWords_command hsub rfl).trans ?_
  rw [(classified hws').1]

/-! ## Invocations -/

/-- The words of a command that have a meaning. -/
theorem finish_eq_ok {main given : Given} {i j : Invocation}
    (h : (if (main.extras ++ given.extras).isEmpty = true then Except.ok i
      else .error (Stop.usage programName (.unrecognized (main.extras ++ given.extras)))) = .ok j) :
    main.extras = [] ∧ given.extras = [] ∧ j = i := by
  split at h
  · rename_i hempty
    cases h
    obtain ⟨hmain, hgiven⟩ := List.append_eq_nil_iff.mp (List.isEmpty_iff.mp hempty)
    exact ⟨hmain, hgiven, rfl⟩
  · cases h

/-- **What a command line asks for**: its words are those of a command, and all of them have a meaning. -/
theorem exists_read_of_ofWords {i : Invocation} (h : Invocation.ofWords words = .ok i) :
    ∃ main given args, mainInterface.read words = .ok main ∧ main.extras = [] ∧ given.extras = [] ∧
      (main.operand = "analyze" :: args ∧ analyzeInterface.read args = .ok given ∧
          i = invocation (main.value? "--config") (.analyze (given.value? "--output")) given ∨
        main.operand = "statements" :: args ∧ statementsInterface.read args = .ok given ∧
          i = invocation (main.value? "--config") .statements given) := by
  unfold Invocation.ofWords at h
  have hoperand : ∀ {ws : List String} {name : String}, ws.headD "" = name → name ≠ "" → ws = name :: ws.drop 1 := by
    intro ws name hname hne
    cases ws with
    | nil => exact absurd hname.symm hne
    | cons w ws => exact hname ▸ rfl
  obtain ⟨main, hmain, h⟩ := exists_of_bind h
  simp only [beq_iff_eq] at h
  split at h
  · rename_i hname
    obtain ⟨given, hgiven, h⟩ := exists_of_bind h
    obtain ⟨hextras, hextras', rfl⟩ := finish_eq_ok h
    exact ⟨main, given, main.operand.drop 1, hmain, hextras, hextras',
      .inl ⟨hoperand hname (by decide), hgiven, rfl⟩⟩
  · split at h
    · rename_i hname
      obtain ⟨given, hgiven, h⟩ := exists_of_bind h
      obtain ⟨hextras, hextras', rfl⟩ := finish_eq_ok h
      exact ⟨main, given, main.operand.drop 1, hmain, hextras, hextras',
        .inr ⟨hoperand hname (by decide), hgiven, rfl⟩⟩
    · cases h

/-- The words of the command that summarizes. -/
theorem ofWords_analyze {main given : Given} {args : List String} (hmain : mainInterface.read words = .ok main)
    (hextras : main.extras = []) (hoperand : main.operand = "analyze" :: args)
    (hgiven : analyzeInterface.read args = .ok given) (hextras' : given.extras = []) :
    Invocation.ofWords words
      = .ok (invocation (main.value? "--config") (.analyze (given.value? "--output")) given) := by
  simp [Invocation.ofWords, hmain, hextras, hoperand, hgiven, hextras', bind, Except.bind]

/-- The flag that names the file to write to. -/
def outputFlag : Flag := ⟨["--output", "-o"], .text⟩

/-- A command line without the flag that names the file to write to. -/
def withoutOutput (words : List String) : List String :=
  match mainInterface.read words with
  | .ok main =>
    let args := main.operand.drop 1
    words.take (words.length - args.length) ++ analyzeInterface.leaveOut outputFlag false args
  | .error _ => words

/-- Every flag before the command is plain. -/
theorem plain_mainInterface : mainInterface.Plain := by
  unfold Plain
  decide

theorem plain_analyzeInterface : analyzeInterface.Plain := by
  unfold Plain
  decide

/-- **Without that flag** a command line asks for the same, but for the file. -/
theorem ofWords_withoutOutput {i : Invocation} {output : Option String} (h : Invocation.ofWords words = .ok i)
    (hcommand : i.command = .analyze output) :
    Invocation.ofWords (withoutOutput words) = .ok { i with command := .analyze none } := by
  obtain ⟨main, given, args, hmain, hextras, hextras', ⟨hoperand, hgiven, rfl⟩ | ⟨-, -, rfl⟩⟩ :=
    exists_read_of_ofWords h
  · have hleft := read_leaveOut (f := outputFlag) rfl plain_analyzeInterface rfl hgiven hextras'
    have hflags := mem_flags_of_read rfl plain_analyzeInterface hgiven hextras'
    have hwords := read_take_append rfl plain_mainInterface hmain hextras hoperand (by decide)
      (fun ws hws => exists_classifyAll_leaveOut (i := analyzeInterface) (f := outputFlag) false hws)
    have hwithout : withoutOutput words
        = words.take (words.length - args.length) ++ analyzeInterface.leaveOut outputFlag false args := by
      simp [withoutOutput, hmain, hoperand]
    rw [hwithout, ofWords_analyze hwords hextras rfl hleft hextras']
    have hnone : ({ given with flags := given.flags.filter (·.1 ≠ outputFlag) } : Given).value? "--output" = none :=
      value?_filter_self hflags (by decide)
    have hother : ∀ name, outputFlag.names.contains name = false →
        ({ given with flags := given.flags.filter (·.1 ≠ outputFlag) } : Given).value? name = given.value? name :=
      fun name hname => value?_filter_ne hname given
    unfold invocation
    rw [hnone, hother "--dialect" (by decide), hother "--strict" (by decide), hother "--format" (by decide),
      hother "--indent" (by decide)]
    rfl
  · cases hcommand

end DumpSummary.CommandLine
