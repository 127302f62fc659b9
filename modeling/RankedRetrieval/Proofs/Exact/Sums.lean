import Mathlib.Data.List.Perm.Basic
import RankedRetrieval.Scalar

/-!
# Exact sums

In exact arithmetic a sum depends neither on the order of its numbers nor on where it starts.

## Main Definitions

* `Scalar.ExactSums` — scalars whose sums are exact

## Main Results

* `Scalar.total_perm` — a total does not depend on the order
* `Scalar.total_append` — the total of two lists is the sum of their totals
* `Scalar.sum_eq_total` — both ways of summing agree

## Design Notes

Floating-point numbers have no exact sums: rounding makes their addition depend on the order.
-/

namespace RankedRetrieval.Scalar

/-- Scalars whose sums are exact. -/
class ExactSums (α : Type) [Scalar α] : Prop where
  /-- The order of two numbers does not matter. -/
  add_comm : ∀ x y : α, x + y = y + x
  /-- How numbers are grouped does not matter. -/
  add_assoc : ∀ x y z : α, x + y + z = x + (y + z)
  /-- No count adds nothing. -/
  zero_add : ∀ x : α, ofNat 0 + x = x
  /-- The sum of no numbers is no count. -/
  emptySum_eq : (emptySum : α) = ofNat 0

variable {α : Type} [Scalar α] [ExactSums α]

instance add_commutative : Std.Commutative (fun x y : α => x + y) := ⟨ExactSums.add_comm⟩

instance add_associative : Std.Associative (fun x y : α => x + y) := ⟨ExactSums.add_assoc⟩

/-- A total does not depend on the order of its numbers. -/
theorem total_perm {xs ys : List α} (same : xs.Perm ys) : total xs = total ys := by
  have swap : RightCommutative (fun x y : α => x + y) := by
    constructor
    intro x y z
    rw [ExactSums.add_assoc, ExactSums.add_comm y z, ← ExactSums.add_assoc]
  exact same.foldl_eq _

theorem total_cons (x : α) (xs : List α) : total (x :: xs) = x + total xs := by
  rw [← total_perm (List.perm_append_singleton x xs), total, List.foldl_append]
  exact ExactSums.add_comm _ _

/-- The total of two lists is the sum of their totals. -/
theorem total_append (xs ys : List α) : total (xs ++ ys) = total xs + total ys := by
  induction xs with
  | nil => exact (ExactSums.zero_add (total ys)).symm
  | cons x xs ih => rw [List.cons_append, total_cons, total_cons, ih, ExactSums.add_assoc]

/-- Both ways of summing agree. -/
theorem sum_eq_total (xs : List α) : sum xs = total xs := by
  rw [sum, total, ExactSums.emptySum_eq]

end RankedRetrieval.Scalar
