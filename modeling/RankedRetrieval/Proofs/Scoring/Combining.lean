import RankedRetrieval.Proofs.Outcome
import RankedRetrieval.Proofs.Scoring.Meaning

/-!
# Combining the scores of arguments

A combination scores its document from the scores of its arguments, in the way that the model
has for its operator.  Where it stands asks which arguments are at the document; what it means
asks which of them match it.

## Main Definitions

* `ScoringTree.combined` — the score of a combination from those of its arguments

## Main Results

* `ScoringTree.score_combine`, `ScoringTree.scoreAt_combine` — both scores of a combination are
  combined in one way
* `ScoringTree.combined_ok` — the operators that a model supports are the ones that it combines
-/

namespace RankedRetrieval.ScoringTree

variable {α : Type} [Scalar α]

/-! ### The scores of arguments -/

section Arguments

variable (index : Index) (model : RetrievalModel α) (doc : DocId) (ts : List (ScoringTree α))

theorem allScores_eq_mapM : allScores index model ts = ts.mapM (score index model) := by
  induction ts with
  | nil => rfl
  | cons t ts ih =>
    rw [allScores, ih, List.mapM_cons]
    cases score index model t <;> rfl

theorem scoresOfAll_eq_mapM :
    scoresOfAll index model doc ts = ts.mapM (scoreAt index model doc) := by
  induction ts with
  | nil => rfl
  | cons t ts ih =>
    rw [scoresOfAll, ih, List.mapM_cons]
    cases scoreAt index model doc t <;> rfl

theorem matchingScores_eq_mapM :
    matchingScores index model doc ts = ts.mapM fun t =>
      if t.isAt doc then (score index model t).map some else .ok none := by
  induction ts with
  | nil => rfl
  | cons t ts ih =>
    rw [matchingScores, ih, List.mapM_cons]
    cases t.isAt doc
    · rfl
    · cases score index model t <;> rfl

theorem scoresOfMatching_eq_mapM :
    scoresOfMatching index model doc ts = ts.mapM fun t =>
      if t.matchesDoc model doc then (scoreAt index model doc t).map some else .ok none := by
  induction ts with
  | nil => rfl
  | cons t ts ih =>
    rw [scoresOfMatching, ih, List.mapM_cons]
    cases t.matchesDoc model doc
    · rfl
    · cases scoreAt index model doc t <;> rfl

theorem defaultScores_eq_mapM :
    defaultScores index model doc ts = ts.mapM (defaultScore index model doc) := by
  induction ts with
  | nil => rfl
  | cons t ts ih =>
    rw [defaultScores, ih, List.mapM_cons]
    cases defaultScore index model doc t <;> rfl

theorem scoresOrDefaults_eq_mapM :
    scoresOrDefaults index model doc ts = ts.mapM fun t =>
      if t.isAt doc then score index model t else defaultScore index model doc t := by
  induction ts with
  | nil => rfl
  | cons t ts ih =>
    rw [scoresOrDefaults, ih, List.mapM_cons]
    cases (if t.isAt doc then score index model t else defaultScore index model doc t) <;> rfl

theorem scoresWithDefaults_eq_mapM :
    scoresWithDefaults index model doc ts = ts.mapM fun t =>
      if t.matchesDoc model doc then scoreAt index model doc t
      else defaultScore index model doc t := by
  induction ts with
  | nil => rfl
  | cons t ts ih =>
    rw [scoresWithDefaults, ih, List.mapM_cons]
    cases (if t.matchesDoc model doc then scoreAt index model doc t
      else defaultScore index model doc t) <;> rfl

end Arguments

/-! ### The score of a combination -/

/-- The score of a combination from the scores of all its arguments, of those that match, and of
all of them with defaults for those that do not. -/
def combined (model : RetrievalModel α) (op : Operator) (weights : List α)
    (all : Except QueryError (List α)) (matching : Except QueryError (List (Option α)))
    (withDefaults : Except QueryError (List α)) : Except QueryError α :=
  match model, op with
  | .unrankedBoolean, .or | .unrankedBoolean, .and | .unrankedBoolean, .wand =>
    .ok (Scalar.ofNat 1)
  | .rankedBoolean, .or =>
    matching.map fun scores => (scores.filterMap id).foldl Scalar.greater (Scalar.ofNat 0)
  | .rankedBoolean, .and | .rankedBoolean, .wand =>
    all.map fun scores => scores.foldl Scalar.lesser Scalar.greatest
  | .bm25 _, .sum => matching.map fun scores => Scalar.total (scores.filterMap id)
  | .bm25 _, .wsum => matching.map (weightedSum weights)
  | .indri _, .and | .indri _, .wand => withDefaults.map (geometricMean weights)
  | .indri _, .wsum => withDefaults.map (arithmeticMean weights)
  | _, _ => .error (Query.unsupported model op)

section Combination

variable {model : RetrievalModel α} {op : Operator} {weights : List α}

theorem score_combine (index : Index) (args : List (ScoringTree α)) (doc : DocId) :
    score index model (combine op args weights (some doc)) =
      combined model op weights (allScores index model args)
        (matchingScores index model doc args) (scoresOrDefaults index model doc args) := by
  cases model <;> cases op <;> rfl

theorem scoreAt_combine (index : Index) (args : List (ScoringTree α)) (current : Option DocId)
    (doc : DocId) :
    scoreAt index model doc (combine op args weights current) =
      combined model op weights (scoresOfAll index model doc args)
        (scoresOfMatching index model doc args) (scoresWithDefaults index model doc args) := by
  cases model <;> cases op <;> rfl

variable {all all' : Except QueryError (List α)}
  {matching : Except QueryError (List (Option α))} {withDefaults : Except QueryError (List α)}

/-- Only a combination that asks for all arguments reads the scores of all of them. -/
theorem combined_congr (same : asksForAll model op = true → all = all') :
    combined model op weights all matching withDefaults =
      combined model op weights all' matching withDefaults := by
  cases model with
  | rankedBoolean =>
    cases op with
    | and | wand => rw [same rfl]
    | _ => rfl
  | _ => cases op <;> rfl

/-- Every operator that a model supports is combined; defaults are asked for by smoothing
only. -/
theorem combined_ok (supported : model.supports op = true) (structural : op ≠ .score)
    (all_ok : ∃ scores, all = .ok scores) (matching_ok : ∃ scores, matching = .ok scores)
    (with_defaults_ok : model.smoothsMissing = true → ∃ scores, withDefaults = .ok scores) :
    ∃ s, combined model op weights all matching withDefaults = .ok s := by
  obtain ⟨_, rfl⟩ := all_ok
  obtain ⟨_, rfl⟩ := matching_ok
  cases model with
  | letor _ _ => simp [RetrievalModel.supports] at supported
  | unrankedBoolean | rankedBoolean =>
    cases op with
    | or | and | wand => exact ⟨_, rfl⟩
    | score => exact absurd rfl structural
    | syn | near | window | sum | wsum => simp [RetrievalModel.supports] at supported
  | bm25 parameters =>
    cases op with
    | sum | wsum => exact ⟨_, rfl⟩
    | score => exact absurd rfl structural
    | syn | near | window | or | and | wand => simp [RetrievalModel.supports] at supported
  | indri parameters =>
    obtain ⟨_, rfl⟩ := with_defaults_ok rfl
    cases op with
    | and | wand | wsum => exact ⟨_, rfl⟩
    | score => exact absurd rfl structural
    | syn | near | window | or | sum => simp [RetrievalModel.supports] at supported

end Combination

end RankedRetrieval.ScoringTree
