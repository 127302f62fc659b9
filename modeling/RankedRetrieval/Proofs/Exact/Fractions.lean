import RankedRetrieval.Proofs.Exact.Reals

/-!
# Exact fractions

In exact arithmetic products distribute over sums, and a factor that is not zero cancels.

## Main Definitions

* `Scalar.ExactFractions` — scalars whose fractions are exact

## Main Results

* `Scalar.total_map_mul` — a common factor may be taken out of a total

## Design Notes

Only as much of an ordered field is asked for as smoothing needs: that a count and a number that is
not negative add up to zero only if both are zero.
-/

namespace RankedRetrieval.Scalar

variable {α β : Type}

/-- Scalars whose fractions are exact. -/
class ExactFractions (α : Type) [Scalar α] : Prop extends ExactArithmetic α where
  /-- A factor may be multiplied with each summand. -/
  add_mul : ∀ x y z : α, (x + y) * z = x * z + y * z
  /-- No count makes a product nothing. -/
  zero_mul : ∀ x : α, ofNat 0 * x = ofNat 0
  /-- A factor that is not zero cancels. -/
  mul_div_cancel : ∀ {x : α} (y : α), x ≠ ofNat 0 → x * y / x = y
  /-- A fraction is zero only if a side of it is. -/
  div_ne_zero : ∀ {x y : α}, x ≠ ofNat 0 → y ≠ ofNat 0 → x / y ≠ ofNat 0
  /-- A positive count is not zero. -/
  ofNat_ne_zero : ∀ {n : Nat}, 0 < n → (ofNat n : α) ≠ ofNat 0
  /-- A count and a number that is not negative add up to zero only if both are zero. -/
  eq_zero_of_add : ∀ {n : Nat} {x : α}, atMost (ofNat 0) x = true → ofNat n + x = ofNat 0 →
    n = 0 ∧ x = ofNat 0

section Products

variable [Scalar α] [ExactFractions α]

theorem add_ofNat_zero (x : α) : x + ofNat 0 = x := by
  rw [ExactSums.add_comm, ExactSums.zero_add]

theorem mul_ofNat_zero (x : α) : x * ofNat 0 = ofNat 0 := by
  rw [ExactArithmetic.mul_comm, ExactFractions.zero_mul]

/-- A common factor may be taken out of a total. -/
theorem total_map_mul (f : β → α) (c : α) (xs : List β) :
    total (xs.map fun x => f x * c) = total (xs.map f) * c := by
  induction xs with
  | nil => exact (ExactFractions.zero_mul c).symm
  | cons x xs ih =>
    rw [List.map_cons, List.map_cons, total_cons, total_cons, ih, ExactFractions.add_mul]

end Products

instance exactFractions_real : ExactFractions ℝ where
  add_mul := add_mul
  zero_mul x := by
    rw [ofNat_real, Nat.cast_zero]
    exact zero_mul x
  mul_div_cancel {x} y some_x := by
    rw [ofNat_real, Nat.cast_zero] at some_x
    exact mul_div_cancel_left₀ y some_x
  div_ne_zero {x y} some_x some_y := by
    rw [ofNat_real, Nat.cast_zero] at some_x some_y ⊢
    exact div_ne_zero some_x some_y
  ofNat_ne_zero {n} positive := by
    rw [ofNat_real, ofNat_real, Nat.cast_zero]
    exact Nat.cast_ne_zero.2 (Nat.ne_of_gt positive)
  eq_zero_of_add {n x} nonneg none := by
    have positive : (0 : ℝ) ≤ x := by simpa [atMost, ofNat_real] using nonneg
    rw [ofNat_real, ofNat_real, Nat.cast_zero] at none
    obtain ⟨no_count, rfl⟩ := (add_eq_zero_iff_of_nonneg (Nat.cast_nonneg n) positive).1 none
    rw [ofNat_real, Nat.cast_zero]
    exact ⟨Nat.cast_eq_zero.1 no_count, rfl⟩

end RankedRetrieval.Scalar
