import Mathlib.Data.List.Basic

/-!
# Computations that may fail

A computation of several steps that succeeds has succeeded in every step, and one that fails does so as the first of
its steps that fails.

## Contents

* `exists_of_bind`: two steps;
* `exists_of_map`, `eq_of_mapError`: a step, and what is made of its result or of its failure;
* `forall_of_mapM`: as many as a list has items;
* `failure?`, `failure?_eq_none_iff`, `failure?_eq_some_iff`: why a computation fails;
* `failure?_map`, `failure?_mapError`, `failure?_both`, `failure?_mapM`: the failure of a computation of several steps.
-/

namespace DumpSummary

variable {α β ε : Type}

/-- **The steps of a computation that succeeds** have succeeded. -/
theorem exists_of_bind {x : Except ε α} {f : α → Except ε β} {b : β} (h : x >>= f = .ok b) :
    ∃ a, x = .ok a ∧ f a = .ok b := by
  cases x with
  | error e => cases h
  | ok a => exact ⟨a, rfl, h⟩

/-- A result that is made of another one has that one behind it. -/
theorem exists_of_map {x : Except ε α} {f : α → β} {b : β} (h : x.map f = .ok b) : ∃ a, x = .ok a ∧ f a = b := by
  cases x with
  | error e => cases h
  | ok a =>
    cases h
    exact ⟨a, rfl, rfl⟩

/-- A result does not depend on what is made of failures. -/
theorem eq_of_mapError {ε' : Type} {x : Except ε α} {f : ε → ε'} {a : α} (h : x.mapError f = .ok a) : x = .ok a := by
  cases x with
  | error e => cases h
  | ok a' =>
    cases h
    rfl

/-- What holds of all results of a function holds of those of a list. -/
theorem forall_of_mapM {P : β → Prop} {f : α → Except ε β} (hf : ∀ a b, f a = .ok b → P b) {as : List α} {bs : List β}
    (h : as.mapM f = .ok bs) : ∀ b ∈ bs, P b := by
  induction as generalizing bs with
  | nil =>
    cases h
    simp
  | cons a as ih =>
    rw [List.mapM_cons] at h
    obtain ⟨b, ha, h⟩ := exists_of_bind h
    obtain ⟨bs, has, h⟩ := exists_of_bind h
    cases h
    exact List.forall_mem_cons.mpr ⟨hf a b ha, ih has⟩

/-! ## Failures -/

/-- Why a computation fails, if it does. -/
def failure? : Except ε α → Option ε
  | .ok _ => none
  | .error e => some e

/-- A computation that has no failure has a result. -/
theorem failure?_eq_none_iff {x : Except ε α} : failure? x = none ↔ ∃ a, x = .ok a := by
  cases x <;> simp [failure?]

/-- A computation that has a failure fails with it. -/
theorem failure?_eq_some_iff {x : Except ε α} {e : ε} : failure? x = some e ↔ x = .error e := by
  cases x <;> simp [failure?]

/-- What is made of a result does not fail. -/
theorem failure?_map (f : α → β) (x : Except ε α) : failure? (x.map f) = failure? x := by
  cases x <;> rfl

/-- What is made of a failure. -/
theorem failure?_mapError {ε' : Type} (f : ε → ε') (x : Except ε α) : failure? (x.mapError f) = (failure? x).map f := by
  cases x <;> rfl

/-- Two computations whose results are put together fail as the first of them that fails. -/
theorem failure?_both {γ : Type} (f : α → β → γ) (x : Except ε α) (y : Except ε β) :
    failure? (do return f (← x) (← y)) = (failure? x).or (failure? y) := by
  cases x <;> cases y <;> rfl

/-- **A list of computations** fails as the first of them that fails. -/
theorem failure?_mapM (f : α → Except ε β) (as : List α) :
    failure? (as.mapM f) = as.findSome? fun a => failure? (f a) := by
  induction as with
  | nil => rfl
  | cons a as ih =>
    rw [List.mapM_cons]
    refine (failure?_both List.cons (f a) (as.mapM f)).trans ?_
    rw [ih, List.findSome?_cons]
    cases failure? (f a) <;> rfl

end DumpSummary
