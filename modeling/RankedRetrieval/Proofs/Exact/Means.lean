import RankedRetrieval.Proofs.Exact.Sums
import RankedRetrieval.Proofs.Scoring.Folding
import RankedRetrieval.Scoring.Score

/-!
# Exact means

In exact arithmetic equal weights are scaled to equal shares, so an evenly weighted mean depends
neither on the weight nor on the order of its numbers.

## Main Definitions

* `Scalar.ExactArithmetic` — scalars whose sums, products and quotients of counts are exact

## Main Results

* `Scalar.product_perm` — a product does not depend on the order
* `ScoringTree.geometricMean_perm` — nor does a geometric mean
* `ScoringTree.geometricMean_even` — the geometric mean under equal weights

## Design Notes

Nothing is asked of powers: both sides of a comparison raise the same numbers to the same shares.
-/

namespace RankedRetrieval

variable {α β : Type}

/-- Scalars whose sums, products and quotients of counts are exact. -/
class Scalar.ExactArithmetic (α : Type) [Scalar α] : Prop extends ExactSums α where
  /-- The order of two factors does not matter. -/
  mul_comm : ∀ x y : α, x * y = y * x
  /-- How factors are grouped does not matter. -/
  mul_assoc : ∀ x y z : α, x * y * z = x * (y * z)
  /-- Counts are added exactly. -/
  ofNat_add : ∀ m n : Nat, (ofNat (m + n) : α) = ofNat m + ofNat n
  /-- A common factor of two counts may be cancelled. -/
  ofNat_div : ∀ {m n : Nat}, 0 < m → 0 < n →
    (ofNat m / ofNat (n * m) : α) = ofNat 1 / ofNat n

namespace Scalar

variable [Scalar α] [ExactArithmetic α]

instance mul_commutative : Std.Commutative (fun x y : α => x * y) := ⟨ExactArithmetic.mul_comm⟩

instance mul_associative : Std.Associative (fun x y : α => x * y) := ⟨ExactArithmetic.mul_assoc⟩

/-- A product does not depend on the order of its factors. -/
theorem product_perm {xs ys : List α} (same : xs.Perm ys) : product xs = product ys := by
  have swap : RightCommutative (fun x y : α => x * y) := by
    constructor
    intro x y z
    rw [ExactArithmetic.mul_assoc, ExactArithmetic.mul_comm y z, ← ExactArithmetic.mul_assoc]
  exact same.foldl_eq _

theorem product_cons (x : α) (xs : List α) : product (x :: xs) = x * product xs := by
  rw [← product_perm (List.perm_append_singleton x xs), product, List.foldl_append]
  exact ExactArithmetic.mul_comm _ _

/-- A count that is added up a number of times. -/
theorem sum_replicate_ofNat (m n : Nat) :
    sum (List.replicate n (ofNat m : α)) = ofNat (n * m) := by
  induction n with
  | zero =>
    rw [Nat.zero_mul]
    exact ExactSums.emptySum_eq
  | succ n ih =>
    rw [sum] at ih
    rw [List.replicate_succ', sum, List.foldl_append, ih, Nat.succ_mul,
      ExactArithmetic.ofNat_add]
    rfl

/-- Arguments without weights of their own weigh as much as there are of them. -/
theorem unitWeight_eq_ofNat {count : Nat} (positive : 0 < count) :
    (Argument.unitWeight count : α) = ofNat count := by
  obtain ⟨n, rfl⟩ := Nat.exists_eq_add_one.2 positive
  clear positive
  induction n with
  | zero => rfl
  | succ n ih => rw [Argument.unitWeight_succ n.succ_pos, ih, ExactArithmetic.ofNat_add (n + 1)]

end Scalar

namespace ScoringTree

variable [Scalar α]

/-- Every share is that of its own weight. -/
theorem shares_map (weight : β → α) (xs : List β) :
    shares (xs.map weight) = xs.map fun x =>
      if Scalar.atMost (Scalar.sum (xs.map weight)) (Scalar.ofNat 0) then
        Scalar.ofNat 1 / Scalar.ofNat xs.length
      else weight x / Scalar.sum (xs.map weight) := by
  rw [shares]
  split
  · rw [List.map_map, List.length_map]
    rfl
  · rw [List.map_map]
    rfl

/-- A geometric mean raises every score to its own share. -/
theorem geometricMean_map (weight score : β → α) (xs : List β) :
    geometricMean (xs.map weight) (xs.map score) = Scalar.product (xs.map fun x =>
      Scalar.pow (score x)
        (if Scalar.atMost (Scalar.sum (xs.map weight)) (Scalar.ofNat 0) then
          Scalar.ofNat 1 / Scalar.ofNat xs.length
        else weight x / Scalar.sum (xs.map weight))) := by
  rw [geometricMean, shares_map, List.zipWith_map, List.zipWith_self]

/-- An arithmetic mean multiplies every score by its own share. -/
theorem arithmeticMean_map (weight score : β → α) (xs : List β) :
    arithmeticMean (xs.map weight) (xs.map score) = Scalar.total (xs.map fun x =>
      (if Scalar.atMost (Scalar.sum (xs.map weight)) (Scalar.ofNat 0) then
        Scalar.ofNat 1 / Scalar.ofNat xs.length
      else weight x / Scalar.sum (xs.map weight)) * score x) := by
  rw [arithmeticMean, shares_map, List.zipWith_map, List.zipWith_self]

variable [Scalar.ExactArithmetic α]

/-- A geometric mean does not depend on the order of what it is taken over. -/
theorem geometricMean_perm (weight score : β → α) {xs ys : List β} (same : xs.Perm ys) :
    geometricMean (xs.map weight) (xs.map score) =
      geometricMean (ys.map weight) (ys.map score) := by
  have same_sum : Scalar.sum (xs.map weight) = Scalar.sum (ys.map weight) := by
    rw [Scalar.sum_eq_total, Scalar.sum_eq_total, Scalar.total_perm (same.map weight)]
  rw [geometricMean_map, geometricMean_map, same_sum, same.length_eq]
  exact Scalar.product_perm (same.map _)

/-- The geometric mean under equal weights. -/
theorem geometricMean_even {m : Nat} (positive : 0 < m) (score : β → α) (xs : List β) :
    geometricMean (xs.map fun _ => (Scalar.ofNat m : α)) (xs.map score) =
      Scalar.product (xs.map fun x =>
        Scalar.pow (score x) (Scalar.ofNat 1 / Scalar.ofNat xs.length)) := by
  rw [geometricMean_map]
  refine congrArg Scalar.product (List.map_congr_left fun x member => ?_)
  rw [List.map_const', Scalar.sum_replicate_ofNat,
    Scalar.ExactArithmetic.ofNat_div positive (List.length_pos_of_mem member), ite_self]

end ScoringTree

end RankedRetrieval
