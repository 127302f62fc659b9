import RankedRetrieval.Proofs.Scoring.Combining
import RankedRetrieval.Proofs.Scoring.NextMatch

/-!
# Scores of settled trees

The score of a settled tree is the score of the document that it is at.

## Main Results

* `ScoringTree.score_eq_scoreAt` — a settled tree scores its document

## Design Notes

Scoring asks where the arguments are; the meaning of a tree asks which of them match.  Both
agree at the document of a settled combination (`Settled.isAt_eq_matchesDoc`): no argument is
behind it, and an argument that matches it cannot be ahead of it.
-/

namespace RankedRetrieval.ScoringTree

variable {α : Type} {model : RetrievalModel α} {doc : DocId}

theorem isAt_iff {t : ScoringTree α} : t.isAt doc = true ↔ t.current? = some doc := by
  simp [isAt]

/-- An argument whose next match is not before a document is at it when it matches it. -/
theorem Settled.isAt_eq_matchesDoc {bound : DocId} {t : ScoringTree α}
    (settled : Settled model bound t) (reached : bound ≤ doc)
    (not_before : ∀ other, t.current? = some other → doc ≤ other) :
    t.isAt doc = t.matchesDoc model doc := by
  rw [Bool.eq_iff_iff, isAt_iff]
  constructor
  · intro at_doc
    exact ((settled.current?_eq_some_iff doc).1 at_doc).isMatch
  · intro matched
    obtain ⟨least, le, found⟩ := LeastMatch.exists_le reached matched
    have at_least := (settled.current?_eq_some_iff least).2 found
    rw [at_least, Nat.le_antisymm (not_before least at_least) le]

section Lists

variable [Scalar α] {index : Index} {ts : List (ScoringTree α)}

theorem allScores_eq (scores : ∀ t ∈ ts, score index model t = scoreAt index model doc t) :
    allScores index model ts = scoresOfAll index model doc ts := by
  rw [allScores_eq_mapM, scoresOfAll_eq_mapM]
  exact Except.mapM_congr scores

theorem matchingScores_eq (at_iff : ∀ t ∈ ts, t.isAt doc = t.matchesDoc model doc)
    (scores : ∀ t ∈ ts, t.isAt doc = true → score index model t = scoreAt index model doc t) :
    matchingScores index model doc ts = scoresOfMatching index model doc ts := by
  rw [matchingScores_eq_mapM, scoresOfMatching_eq_mapM]
  refine Except.mapM_congr fun t ht => ?_
  rw [← at_iff t ht]
  split
  · rename_i at_doc
    rw [scores t ht at_doc]
  · rfl

theorem scoresOrDefaults_eq (at_iff : ∀ t ∈ ts, t.isAt doc = t.matchesDoc model doc)
    (scores : ∀ t ∈ ts, t.isAt doc = true → score index model t = scoreAt index model doc t) :
    scoresOrDefaults index model doc ts = scoresWithDefaults index model doc ts := by
  rw [scoresOrDefaults_eq_mapM, scoresWithDefaults_eq_mapM]
  refine Except.mapM_congr fun t ht => ?_
  rw [← at_iff t ht]
  split
  · rename_i at_doc
    exact scores t ht at_doc
  · rfl

/-- A combination scores its document when its arguments do. -/
theorem score_combine_eq_scoreAt (op : Operator) (weights : List α)
    (at_iff : ∀ t ∈ ts, t.isAt doc = t.matchesDoc model doc)
    (scores : ∀ t ∈ ts, t.isAt doc = true → score index model t = scoreAt index model doc t)
    (all_at : asksForAll model op = true → ∀ t ∈ ts, t.isAt doc = true) :
    score index model (combine op ts weights (some doc)) =
      scoreAt index model doc (combine op ts weights (some doc)) := by
  rw [score_combine, scoreAt_combine, matchingScores_eq at_iff scores,
    scoresOrDefaults_eq at_iff scores]
  exact combined_congr fun asks => allScores_eq fun t ht => scores t ht (all_at asks t ht)

end Lists

/-- A settled tree scores the document that it is at. -/
theorem score_eq_scoreAt [Scalar α] {index : Index} {bound : DocId} {t : ScoringTree α}
    (settled : Settled model bound t) (at_doc : t.current? = some doc) :
    score index model t = scoreAt index model doc t := by
  induction settled generalizing doc with
  | leaf at_bound =>
    have posting := at_bound.posting?_eq_find? at_doc
    rw [score, scoreAt, leafScore, leafScoreAt]
    cases found : Cursor.posting? _ with
    | none => rw [← posting, found]
    | some p => rw [← posting, found]
  | @any bound op args weights one_suffices args_settled ih =>
    have found := ((Settled.any one_suffices args_settled).current?_eq_some_iff doc).1 at_doc
    rw [current?] at at_doc
    rw [at_doc]
    have not_all (asks : asksForAll model op = true) : False :=
      Bool.false_ne_true (one_suffices.symm.trans asks)
    refine score_combine_eq_scoreAt op weights (fun t ht => ?_)
      (fun t ht at_t => ih t ht (isAt_iff.1 at_t)) fun asks => (not_all asks).elim
    exact (args_settled t ht).isAt_eq_matchesDoc found.reached fun other at_other =>
      (List.min?_eq_some_iff.1 at_doc).2 other (List.mem_filterMap.2 ⟨t, ht, at_other⟩)
  | @agreed bound reached at_it op args weights _ _ args_settled all_at _ _ ih =>
    obtain rfl : at_it = doc := Option.some.inj at_doc
    refine score_combine_eq_scoreAt op weights (fun t ht => ?_)
      (fun t ht _ => ih t ht (all_at t ht)) fun _ t ht => isAt_iff.2 (all_at t ht)
    rw [isAt_iff.2 (all_at t ht)]
    exact (((args_settled t ht).current?_eq_some_iff at_it).1 (all_at t ht)).isMatch.symm
  | exhausted _ _ => simp [current?] at at_doc

end RankedRetrieval.ScoringTree
