import Mathlib.Data.List.Nodup
import RankedRetrieval.Proofs.Ranking.TotalOrder

/-!
# The order of results

Results are sorted in a total order, and the first of them are reported.

## Main Definitions

* `ScoreList.Before` — the order of the entries of a result
* `ScoreList.Reported` — the best ones of some entries, in order

## Main Results

* `ScoreList.pairwise_sort` — sorting puts the entries in order
* `ScoreList.reported_rank` — what is reported of a result

## Design Notes

Scores are compared by their place in the total order, where every number has a place, even what
is not a number.  So the order is that of the keys of entries (`ScoreList.before_iff`), and sorting
does what it should for all scores.
-/

namespace RankedRetrieval.ScoreList

variable {a b : ScoredDocument Number}

/-- An entry may stand before another one: it has a better score, or the same score and a name
that is not greater. -/
def Before (a b : ScoredDocument Number) : Prop :=
  b.score.totalKey < a.score.totalKey ∨
    b.score.totalKey = a.score.totalKey ∧ a.externalId ≤ b.externalId

/-- The order of entries is the order of their keys. -/
theorem before_iff : Before a b ↔ a.rankKey ≤ b.rankKey := by
  rw [rankKey_le_iff, Before, Number.totalKey_eq, Number.totalKey_eq]
  rfl

/-- Sorting puts entries in order. -/
theorem pairwise_sort (l : ScoreList Number) : l.sort.entries.Pairwise Before :=
  (pairwise_rankKey_sort l).imp before_iff.2

/-! ### What is reported -/

/-- The best ones of some entries, in order. -/
structure Reported (found ranked : List (ScoredDocument Number)) : Prop where
  /-- There are as many as are found, but no more than can be reported. -/
  length_eq : ranked.length = min maxResults found.length
  /-- They are in order. -/
  ordered : ranked.Pairwise Before
  /-- They are found, and what else is found does not come before them. -/
  best : ∃ others, (ranked ++ others).Perm found ∧ ∀ a ∈ ranked, ∀ b ∈ others, Before a b

theorem reported_rank (l : ScoreList Number) : Reported l.entries l.rank.entries where
  length_eq := (firstOf_rank l).length_eq
  ordered := (firstOf_rank l).sorted.imp before_iff.2
  best := by
    obtain ⟨others, perm, not_before⟩ := (firstOf_rank l).left_out
    exact ⟨others, perm, fun a ha b hb => before_iff.2 (not_lt.1 (not_before a ha b hb))⟩

theorem mem_of_mem_rank {l : ScoreList Number} {e : ScoredDocument Number}
    (member : e ∈ l.rank.entries) : e ∈ l.entries :=
  (perm_sort l).mem_iff.1 (List.mem_of_mem_take member)

/-- What is reported repeats no document when what is found does not. -/
theorem Reported.nodup {found ranked : List (ScoredDocument Number)}
    (reported : Reported found ranked) (distinct : (found.map ScoredDocument.doc).Nodup) :
    (ranked.map ScoredDocument.doc).Nodup := by
  obtain ⟨others, perm, -⟩ := reported.best
  have all := (perm.map ScoredDocument.doc).nodup_iff.2 distinct
  rw [List.map_append] at all
  exact all.of_append_left

end RankedRetrieval.ScoreList
