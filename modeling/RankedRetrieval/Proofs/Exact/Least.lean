import Mathlib.Data.Prod.Lex
import RankedRetrieval.Proofs.Exact.Rounding

/-!
# The least of floating-point numbers

Taking the least of some numbers and then one of them again changes nothing.  This holds of all
numbers that there are: of infinities, of both zeros, and of what is not a number.

## Main Definitions

* `Scalar.AbsorbsRepeats` — scalars of which the least does not change with repeats
* `Rounding.place` — the place of a floating-point number in its order

## Main Results

* `Rounding.lt_iff_place` — numbers are in the order of their places
* `Number.lesser_spec` — the lesser of two numbers is not behind either of them
* `numberAbsorbsRepeats` — the least of floating-point numbers does not change with repeats

## Design Notes

Both zeros have one place, so which of them is the least of some numbers depends on which of them
comes first.  What comes a second time is not first.
-/

namespace RankedRetrieval

/-- Scalars of which the least is not changed by one that it has been taken of. -/
class Scalar.AbsorbsRepeats (α : Type) [Scalar α] : Prop where
  /-- A repeat does not change the least. -/
  lesser_of_mem : ∀ {xs : List α} {x : α}, x ∈ xs →
    lesser (xs.foldl lesser greatest) x = xs.foldl lesser greatest

/-! ### Places -/

namespace Rounding

open Float.Model

/-- The place of a number in the order: how far it is from zero by its kind, and among numbers of a
kind by its exponent and its mantissa. -/
def place : UnpackedFloat → Int ×ₗ Int ×ₗ Int
  | .infinity .negative => toLex (-2, toLex (0, 0))
  | .finite .negative mantissa exponent _ => toLex (-1, toLex (-exponent, -mantissa))
  | .zero _ | .notANumber => toLex (0, toLex (0, 0))
  | .finite .positive mantissa exponent _ => toLex (1, toLex (exponent, mantissa))
  | .infinity .positive => toLex (2, toLex (0, 0))

/-- Numbers are in the order of their places. -/
theorem lt_iff_place {a b : UnpackedFloat} (a_number : a.isNaN = false)
    (b_number : b.isNaN = false) : a.lt b = true ↔ place a < place b := by
  have signs : compare UnpackedFloat.Sign.negative .positive = .lt := rfl
  rw [UnpackedFloat.lt, beq_iff_eq]
  cases a with
  | notANumber => cases a_number
  | infinity s | zero s | finite s m e _ =>
    cases b with
    | notANumber => cases b_number
    | infinity t | zero t | finite t n d _ =>
      cases s <;> cases t <;> dsimp only [UnpackedFloat.compare, place] <;>
        simp [Prod.Lex.toLex_lt_toLex, Ordering.then_eq_lt, Ordering.then_eq_gt,
          compare_lt_iff_lt, compare_gt_iff_gt, signs]

end Rounding

/-! ### The lesser of two numbers -/

namespace Number

open Rounding

/-- The place of a number in the order. -/
def place (x : Number) : Int ×ₗ Int ×ₗ Int := Rounding.place x.value.toModel.unpack

theorem value_lt_iff {x y : Number} (x_number : x.isNaN = false) (y_number : y.isNaN = false) :
    x.value < y.value ↔ x.place < y.place := by
  show decide (x.value.toModel.unpack.lt y.value.toModel.unpack = true) = true ↔ _
  rw [decide_eq_true_iff]
  exact lt_iff_place x_number y_number

/-- What is not before a number does not take its place. -/
theorem lesser_eq_left {x y : Number} (x_number : x.isNaN = false)
    (not_before : y.isNaN = false → x.place ≤ y.place) : lesser x y = x := by
  cases y_number : y.isNaN with
  | true =>
    rw [lesser, x_number, y_number]
    rfl
  | false =>
    have not_less : ¬ y.value < x.value := by
      rw [value_lt_iff y_number x_number]
      exact not_lt.2 (not_before y_number)
    rw [lesser_of_numbers x_number y_number, if_neg not_less]

/-- The lesser of a number and something else is a number that is not behind either of them. -/
theorem lesser_spec {x : Number} (x_number : x.isNaN = false) (y : Number) :
    (lesser x y).isNaN = false ∧ (lesser x y).place ≤ x.place ∧
      (y.isNaN = false → (lesser x y).place ≤ y.place) := by
  by_cases before : y.isNaN = false ∧ y.place < x.place
  · obtain ⟨y_number, place_lt⟩ := before
    have less : y.value < x.value := (value_lt_iff y_number x_number).2 place_lt
    rw [lesser_of_numbers x_number y_number, if_pos less]
    exact ⟨y_number, place_lt.le, fun _ => le_rfl⟩
  · have not_before (y_number : y.isNaN = false) : x.place ≤ y.place :=
      not_lt.1 fun place_lt => before ⟨y_number, place_lt⟩
    rw [lesser_eq_left x_number not_before]
    exact ⟨x_number, le_rfl, not_before⟩

/-- The least of numbers is a number that is not behind any of them. -/
theorem foldl_lesser_spec (xs : List Number) {x : Number} (x_number : x.isNaN = false) :
    (xs.foldl lesser x).isNaN = false ∧ (xs.foldl lesser x).place ≤ x.place ∧
      ∀ y ∈ xs, y.isNaN = false → (xs.foldl lesser x).place ≤ y.place := by
  induction xs generalizing x with
  | nil => exact ⟨x_number, le_rfl, by simp⟩
  | cons y xs ih =>
    obtain ⟨number, below, below_y⟩ := lesser_spec x_number y
    obtain ⟨least_number, below_lesser, below_others⟩ := ih number
    rw [List.foldl_cons]
    refine ⟨least_number, below_lesser.trans below, List.forall_mem_cons.2 ⟨?_, below_others⟩⟩
    intro y_number
    exact below_lesser.trans (below_y y_number)

end Number

/-- The least of floating-point numbers does not change with repeats. -/
instance numberAbsorbsRepeats : Scalar.AbsorbsRepeats Number where
  lesser_of_mem := by
    intro xs x member
    obtain ⟨number, -, below⟩ :=
      Number.foldl_lesser_spec xs Rounding.normal_greatest.isNaN_eq_false
    exact Number.lesser_eq_left number (below x member)

end RankedRetrieval
