/-!
# Outcomes

How a computation that may fail has come to its result, and when it fails.

## Main Definitions

* `Except.failure?` — the error of a computation

## Main Results

* `Except.map_eq_ok_iff` — the result of a computation whose result is changed
* `Except.mapM_ok` — computations that all have a result have a list of results
* `Except.failure?_eq_none_iff` — a computation without an error has a result
-/

namespace Except

variable {ε β γ : Type}

/-- A changed result is what becomes of the result before. -/
theorem map_eq_ok_iff {f : β → γ} {outcome : Except ε β} {result : γ} :
    outcome.map f = .ok result ↔ ∃ before, outcome = .ok before ∧ f before = result := by
  cases outcome with
  | error e => simp [Except.map]
  | ok before => simp [Except.map]

/-! ### Several computations -/

section Lists

variable {f g : β → Except ε γ} {xs : List β}

theorem mapM_ok (ok : ∀ x ∈ xs, ∃ y, f x = .ok y) : ∃ ys, xs.mapM f = .ok ys := by
  induction xs with
  | nil => exact ⟨[], rfl⟩
  | cons x xs ih =>
    obtain ⟨y, hy⟩ := ok x List.mem_cons_self
    obtain ⟨ys, hys⟩ := ih fun z hz => ok z (List.mem_cons_of_mem x hz)
    exact ⟨y :: ys, by rw [List.mapM_cons, hy, hys]; rfl⟩

theorem mapM_congr (same : ∀ x ∈ xs, f x = g x) : xs.mapM f = xs.mapM g := by
  induction xs with
  | nil => rfl
  | cons x xs ih =>
    rw [List.mapM_cons, List.mapM_cons, same x List.mem_cons_self,
      ih fun z hz => same z (List.mem_cons_of_mem x hz)]

/-- Computations whose results are known have the list of these. -/
theorem mapM_eq_map {results : β → γ} (ok : ∀ x ∈ xs, f x = .ok (results x)) :
    xs.mapM f = .ok (xs.map results) := by
  rw [mapM_congr ok]
  exact List.mapM_pure

end Lists

/-! ### Failures -/

/-- The error of a computation, if it fails. -/
def failure? : Except ε β → Option ε
  | error e => some e
  | ok _ => none

@[simp]
theorem failure?_error (e : ε) : (error e : Except ε β).failure? = some e := rfl

@[simp]
theorem failure?_ok (result : β) : (ok result : Except ε β).failure? = none := rfl

/-- Changing the result does not change the error. -/
@[simp]
theorem failure?_map (f : β → γ) (outcome : Except ε β) :
    (outcome.map f).failure? = outcome.failure? := by
  cases outcome with
  | error e => rfl
  | ok result => rfl

theorem failure?_eq_some_iff {outcome : Except ε β} {e : ε} :
    outcome.failure? = some e ↔ outcome = .error e := by
  cases outcome with
  | error e => simp
  | ok result => simp

theorem failure?_eq_none_iff {outcome : Except ε β} :
    outcome.failure? = none ↔ ∃ result, outcome = .ok result := by
  cases outcome with
  | error e => simp
  | ok result => simp

end Except
