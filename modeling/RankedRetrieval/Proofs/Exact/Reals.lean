import Mathlib.Analysis.SpecialFunctions.Log.Basic
import Mathlib.Analysis.SpecialFunctions.Pow.Real
import RankedRetrieval.Proofs.Exact.Means

/-!
# Real numbers as scalars

The real numbers are scalars with exact arithmetic, so what is proved of exact arithmetic holds
of formulas as they are written on paper.

## Main Definitions

* `realScalar` — the arithmetic of real numbers
* `realNumeral` — real numbers as decimals

## Design Notes

A real number has no shortest decimal.  It is written with as many places as a floating-point
number needs, and a decimal is read as the number that it stands for.
-/

namespace RankedRetrieval

open Classical in
noncomputable instance realScalar : Scalar ℝ where
  emptySum := 0
  ln := Real.log
  pow x y := x ^ y
  less x y := decide (x < y)
  atMost x y := decide (x ≤ y)
  greater x y := max x y
  lesser x y := min x y
  greatest := (2 ^ 53 - 1) * 2 ^ 971
  ranksBelow x y := decide (x ≤ y)

/-- The decimal nearest to a real number, with fixed places. -/
noncomputable def Decimal.fixedReal (places : Nat) (x : ℝ) : String :=
  String.ofList (signed (realScalar.less x 0)
    (withPlaces ⌊|x| * 10 ^ places + 1 / 2⌋₊ places))

/-- The real number that a decimal stands for. -/
noncomputable def Decimal.Literal.toReal (l : Literal) : ℝ :=
  (if l.negative then -1 else 1) * l.mantissa * 10 ^ l.power

/-- Reads a decimal as the real number that it stands for. -/
noncomputable def Decimal.readReal (text : String) : Except NumeralError ℝ :=
  match text.toList with
  | [] => .error .emptyFloat
  | cs =>
    let (negative, unsigned) := splitSign cs
    match readLiteral? negative unsigned with
    | some l => .ok l.toReal
    | none => .error .invalidFloat

noncomputable instance realNumeral : Numeral ℝ where
  text := Decimal.fixedReal 17
  fixed := Decimal.fixedReal
  read := Decimal.readReal

namespace Scalar

theorem ofNat_real (n : Nat) : (ofNat n : ℝ) = n := rfl

instance exactSums_real : ExactSums ℝ where
  add_comm := add_comm
  add_assoc := add_assoc
  zero_add x := by
    rw [ofNat_real, Nat.cast_zero]
    exact zero_add x
  emptySum_eq := by
    rw [ofNat_real, Nat.cast_zero]
    rfl

instance exactArithmetic_real : ExactArithmetic ℝ where
  mul_comm := mul_comm
  mul_assoc := mul_assoc
  ofNat_add := Nat.cast_add
  ofNat_div {m n} some_m _ := by
    have divisible : (m : ℝ) ≠ 0 := Nat.cast_ne_zero.2 (Nat.ne_of_gt some_m)
    rw [ofNat_real, ofNat_real, ofNat_real, ofNat_real, Nat.cast_mul, Nat.cast_one]
    exact (div_mul_cancel_right₀ divisible (n : ℝ)).trans (one_div (n : ℝ)).symm

end Scalar

end RankedRetrieval
