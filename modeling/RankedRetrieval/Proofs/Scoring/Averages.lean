import RankedRetrieval.Proofs.Exact.Order
import RankedRetrieval.Proofs.Scoring.Smoothing

/-!
# Means between the scores

A weighted mean of scores grows with the scores, and the mean of one score is this score.  So a mean
lies between the least and the greatest of its scores.

## Main Definitions

* `ScoringTree.Between` — a score between the least and the greatest of some scores

## Main Results

* `ScoringTree.total_shares` — the shares of weights that are not negative add up to one
* `ScoringTree.meanOf_mono` — a mean grows with the scores
* `ScoringTree.meanOf_replicate` — the mean of one score
* `ScoringTree.meanOf_between` — a mean lies between its scores

## Design Notes

Weights whose sum is zero are replaced by equal ones.  In either case the shares are weights with a
positive sum that are divided by this sum.
-/

namespace RankedRetrieval.ScoringTree

open ExactNumber

variable {F : ExactFunctions} {weights xs ys scores : List (ExactNumber F)} {x : ExactNumber F}

/-! ### Shares -/

/-- Shares are weights with a positive sum, divided by this sum. -/
theorem exists_shares_eq (some_weight : weights ≠ []) (nonneg : ∀ w ∈ weights, w.Nonneg) :
    ∃ ws : List (ExactNumber F), (Scalar.total ws).Positive ∧
      shares weights = ws.map fun w => w / Scalar.total ws := by
  have sum_nonneg : (Scalar.sum weights).Nonneg := by
    rw [Scalar.sum_eq_total]
    exact Nonneg.total nonneg
  rw [shares]
  split
  · refine ⟨List.replicate weights.length (Scalar.ofNat 1), ?_, ?_⟩
    · rw [← Scalar.sum_eq_total, Scalar.sum_replicate_ofNat, Nat.mul_one]
      exact positive_ofNat (List.length_pos_of_ne_nil some_weight)
    · rw [← Scalar.sum_eq_total, Scalar.sum_replicate_ofNat, Nat.mul_one, List.map_replicate,
        List.map_const']
  · rename_i positive
    obtain ⟨a, a_nonneg, sum_eq⟩ := sum_nonneg
    rw [sum_eq, ofNat_eq, Nat.cast_zero, atMost_number] at positive
    rw [Scalar.sum_eq_total] at sum_eq ⊢
    exact ⟨weights, ⟨a, lt_of_not_ge positive, sum_eq⟩, rfl⟩

/-- The shares of weights that are not negative add up to one. -/
theorem total_shares (some_weight : weights ≠ []) (nonneg : ∀ w ∈ weights, w.Nonneg) :
    Scalar.total (shares weights) = Scalar.ofNat 1 := by
  obtain ⟨ws, positive, shares_eq⟩ := exists_shares_eq some_weight nonneg
  rw [shares_eq, total_map_div positive, positive.div_self]

/-! ### Growing means -/

theorem forall₂_zipWith {β γ δ : Type} {f : β → γ → δ} {R : β → β → Prop} {S : δ → δ → Prop}
    {xs ys : List β} {zs : List γ} (grows : ∀ x y, ∀ z ∈ zs, R x y → S (f x z) (f y z))
    (related : List.Forall₂ R xs ys) :
    List.Forall₂ S (List.zipWith f xs zs) (List.zipWith f ys zs) := by
  induction related generalizing zs with
  | nil => exact .nil
  | @cons x y _ _ first _ ih =>
    cases zs with
    | nil => exact .nil
    | cons z zs =>
      refine .cons (grows x y z List.mem_cons_self first) (ih ?_)
      intro x y w hw
      exact grows x y w (List.mem_cons_of_mem z hw)

/-- A geometric mean grows with the scores. -/
theorem geometricMean_mono (laws : F.PowLaws) (nonneg : ∀ w ∈ weights, w.Nonneg)
    (below : List.Forall₂ Below xs ys) :
    (geometricMean weights xs).Below (geometricMean weights ys) := by
  apply Below.product
  refine forall₂_zipWith ?_ below
  intro x y s hs x_below
  exact x_below.pow laws (shares_nonneg nonneg s hs)

/-- An arithmetic mean grows with the scores. -/
theorem arithmeticMean_mono (nonneg : ∀ w ∈ weights, w.Nonneg)
    (below : List.Forall₂ Below xs ys) :
    (arithmeticMean weights xs).Below (arithmeticMean weights ys) := by
  have swap : ∀ zs : List (ExactNumber F), List.zipWith (· * ·) (shares weights) zs =
      List.zipWith (fun x s => s * x) zs (shares weights) := fun _ => List.zipWith_comm
  apply Below.total
  rw [swap xs, swap ys]
  refine forall₂_zipWith ?_ below
  intro x y s hs x_below
  exact (shares_nonneg nonneg s hs).below_self.mul x_below

/-- Either mean grows with the scores. -/
theorem meanOf_mono (laws : F.PowLaws) (op : Operator) (nonneg : ∀ w ∈ weights, w.Nonneg)
    (below : List.Forall₂ Below xs ys) :
    (meanOf op weights xs).Below (meanOf op weights ys) := by
  rw [meanOf, meanOf]
  split
  · exact arithmeticMean_mono nonneg below
  · exact geometricMean_mono laws nonneg below

/-! ### Means of one score -/

theorem shares_ne_nil (some_weight : weights ≠ []) : shares weights ≠ [] := by
  intro none
  have no_weight : weights.length = 0 := by
    rw [← length_shares, none, List.length_nil]
  exact some_weight (List.length_eq_zero_iff.1 no_weight)

theorem geometricMean_const (laws : F.PowLaws) (some_weight : weights ≠ [])
    (nonneg : ∀ w ∈ weights, w.Nonneg) (x_nonneg : x.Nonneg) :
    geometricMean weights (List.replicate weights.length x) = x := by
  have powers : List.zipWith Scalar.pow (List.replicate weights.length x) (shares weights) =
      (shares weights).map fun s => Scalar.pow x s := by
    rw [← length_shares, ← List.map_const', List.zipWith_map_left, List.zipWith_self]
  rw [geometricMean, powers, product_map_pow laws x_nonneg (shares_ne_nil some_weight)
    (shares_nonneg nonneg), total_shares some_weight nonneg, pow_ofNat_one laws x_nonneg]

theorem arithmeticMean_const (some_weight : weights ≠ []) (nonneg : ∀ w ∈ weights, w.Nonneg)
    (number : x.IsNumber) :
    arithmeticMean weights (List.replicate weights.length x) = x := by
  have factors : List.zipWith (· * ·) (shares weights) (List.replicate weights.length x) =
      (shares weights).map fun s => s * x := by
    rw [← length_shares, ← List.map_const', List.zipWith_map_right, List.zipWith_self]
  rw [arithmeticMean, factors, total_map_mul number, total_shares some_weight nonneg,
    ofNat_one_mul number]

/-- The mean of one score is this score. -/
theorem meanOf_replicate (laws : F.PowLaws) (op : Operator) (some_weight : weights ≠ [])
    (nonneg : ∀ w ∈ weights, w.Nonneg) (x_nonneg : x.Nonneg) :
    meanOf op weights (List.replicate weights.length x) = x := by
  rw [meanOf]
  split
  · exact arithmeticMean_const some_weight nonneg x_nonneg.isNumber
  · exact geometricMean_const laws some_weight nonneg x_nonneg

/-! ### Means between scores -/

/-- A score lies between the least and the greatest of some scores. -/
def Between {α : Type} [Scalar α] (s : α) (scores : List α) : Prop :=
  ∃ low ∈ scores, ∃ high ∈ scores,
    (∀ x ∈ scores, Scalar.atMost low x = true ∧ Scalar.atMost x high = true) ∧
      Scalar.atMost low s = true ∧ Scalar.atMost s high = true

/-- A mean lies between its scores. -/
theorem meanOf_between (laws : F.PowLaws) (op : Operator) (nonneg : ∀ w ∈ weights, w.Nonneg)
    (same_length : scores.length = weights.length) (some_score : scores ≠ [])
    (scores_nonneg : ∀ x ∈ scores, x.Nonneg) : Between (meanOf op weights scores) scores := by
  have some_weight : weights ≠ [] := by
    rw [← List.length_pos_iff, ← same_length]
    exact List.length_pos_of_ne_nil some_score
  obtain ⟨low, low_mem, least⟩ := exists_least some_score scores_nonneg
  obtain ⟨high, high_mem, greatest⟩ := exists_greatest some_score scores_nonneg
  -- the mean is compared to those of the extremes, taken in place of every score
  have lower : low.Below (meanOf op weights scores) := by
    have below : List.Forall₂ Below (List.replicate weights.length low) scores := by
      rw [← same_length, ← List.map_const', List.forall₂_map_left_iff, List.forall₂_same]
      exact least
    have mono := meanOf_mono laws op nonneg below
    rwa [meanOf_replicate laws op some_weight nonneg (scores_nonneg low low_mem)] at mono
  have upper : (meanOf op weights scores).Below high := by
    have below : List.Forall₂ Below scores (List.replicate weights.length high) := by
      rw [← same_length, ← List.map_const', List.forall₂_map_right_iff, List.forall₂_same]
      exact greatest
    have mono := meanOf_mono laws op nonneg below
    rwa [meanOf_replicate laws op some_weight nonneg (scores_nonneg high high_mem)] at mono
  refine ⟨low, low_mem, high, high_mem, ?_, lower.atMost, upper.atMost⟩
  intro x hx
  exact ⟨(least x hx).atMost, (greatest x hx).atMost⟩

end RankedRetrieval.ScoringTree
