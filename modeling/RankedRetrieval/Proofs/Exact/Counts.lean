import Mathlib.Order.Lattice.Nat
import RankedRetrieval.Scalar

/-!
# Counts as scalars

Counts keep their order when they become scalars, as far as they fit into a machine word.

## Main Definitions

* `Scalar.countBound` — the counts that are asked for are less than this
* `Scalar.ComparesCounts` — scalars that compare counts as naturals

## Main Results

* `Scalar.foldl_greater_ofNat`, `Scalar.foldl_lesser_ofNat` — the extremes of counts

## Design Notes

Two counts may become one scalar when it has too few digits to tell them apart.  This does no
harm to the greater and the lesser of them.
-/

namespace RankedRetrieval.Scalar

/-- Counts of what is held in memory are less than this. -/
def countBound : Nat := 2 ^ 64

/-- Scalars that compare counts as naturals. -/
class ComparesCounts (α : Type) [Scalar α] : Prop where
  /-- The greater of two counts. -/
  greater_ofNat : ∀ m n, m < countBound → n < countBound →
    (greater (ofNat m) (ofNat n) : α) = ofNat (max m n)
  /-- The lesser of two counts. -/
  lesser_ofNat : ∀ m n, m < countBound → n < countBound →
    (lesser (ofNat m) (ofNat n) : α) = ofNat (min m n)
  /-- No count is greater than the greatest number. -/
  lesser_greatest : ∀ n, n < countBound → (lesser greatest (ofNat n) : α) = ofNat n

variable {α : Type} [Scalar α] [ComparesCounts α]

theorem foldl_greater_ofNat {ns : List Nat} (small : ∀ n ∈ ns, n < countBound) :
    (ns.map ofNat).foldl greater (ofNat 0 : α) = ofNat (ns.max?.getD 0) := by
  have from_count (m : Nat) (m_small : m < countBound) :
      (ns.map ofNat).foldl greater (ofNat m : α) = ofNat (ns.foldl max m) := by
    induction ns generalizing m with
    | nil => rfl
    | cons n ns ih =>
      obtain ⟨n_small, small⟩ := List.forall_mem_cons.1 small
      rw [List.map_cons, List.foldl_cons, List.foldl_cons,
        ComparesCounts.greater_ofNat m n m_small n_small, ih small _ (max_lt m_small n_small)]
  rw [from_count 0 (by decide)]
  cases ns with
  | nil => rfl
  | cons n ns => rw [List.foldl_cons, Nat.zero_max, List.max?_cons']; rfl

theorem foldl_lesser_ofNat {ns : List Nat} (small : ∀ n ∈ ns, n < countBound)
    (some_count : ns ≠ []) :
    (ns.map ofNat).foldl lesser (greatest : α) = ofNat (ns.min?.getD 0) := by
  have from_count {ns : List Nat} (small : ∀ n ∈ ns, n < countBound) (m : Nat)
      (m_small : m < countBound) :
      (ns.map ofNat).foldl lesser (ofNat m : α) = ofNat (ns.foldl min m) := by
    induction ns generalizing m with
    | nil => rfl
    | cons n ns ih =>
      obtain ⟨n_small, small⟩ := List.forall_mem_cons.1 small
      rw [List.map_cons, List.foldl_cons, List.foldl_cons,
        ComparesCounts.lesser_ofNat m n m_small n_small, ih small _ (min_lt_of_left_lt m_small)]
  cases ns with
  | nil => exact absurd rfl some_count
  | cons n ns =>
    obtain ⟨n_small, small⟩ := List.forall_mem_cons.1 small
    rw [List.map_cons, List.foldl_cons, ComparesCounts.lesser_greatest n n_small,
      from_count small n n_small, List.min?_cons']
    rfl

end RankedRetrieval.Scalar
