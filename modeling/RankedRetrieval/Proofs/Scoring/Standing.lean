import RankedRetrieval.Proofs.Scoring.Support

/-!
# Where a document stands

What a scoring tree says of one document, without a question of errors: whether it matches, with
which score, and which score there is by default.  A combination says of a document what is to be
made of that which its arguments say of it.

## Main Definitions

* `Standing` — whether a document is matched, its score and its default score
* `ScoringTree.standing` — what a scoring tree says of a document
* `Standing.combine` — what a combination makes of its arguments

## Main Results

* `ScoringTree.Supported.standing_combine` — a combination stands where its arguments put it
* `ScoringTree.Supported.scoreAt_eq_standing` — the score is that which a run finds

## Design Notes

Scores that do not exist are zero here.  A supported tree has all scores that its model asks for,
so this is only seen where no one looks.
-/

namespace RankedRetrieval

variable {α : Type}

/-- What a scoring tree says of a document. -/
structure Standing (α : Type) where
  /-- Whether it matches. -/
  isMatch : Bool
  /-- Its score, if it matches. -/
  score : α
  /-- Its score, if it does not match. -/
  default : α

namespace Standing

/-- The score of a document that matches. -/
def score? (v : Standing α) : Option α :=
  if v.isMatch then some v.score else none

/-- The score of a document, whether it matches or not. -/
def smoothed (v : Standing α) : α :=
  if v.isMatch then v.score else v.default

theorem smoothed_of_isMatch {v : Standing α} (matched : v.isMatch = true) :
    v.smoothed = v.score :=
  if_pos matched

variable [Scalar α] (model : RetrievalModel α) (op : Operator) (weights : List α)

/-- Whether a combination matches a document of which its arguments say this. -/
def combinedMatch (vs : List (Standing α)) : Bool :=
  if ScoringTree.asksForAll model op then !vs.isEmpty && vs.all isMatch else vs.any isMatch

/-- The score of a combination by what its arguments say. -/
def combinedScore (vs : List (Standing α)) : α :=
  (ScoringTree.combined model op weights (.ok (vs.map score)) (.ok (vs.map score?))
    (.ok (vs.map smoothed))).toOption.getD (Scalar.ofNat 0)

/-- The default score of a combination by what its arguments say. -/
def combinedDefault (vs : List (Standing α)) : α :=
  match model, op with
  | .indri _, .and | .indri _, .wand => ScoringTree.geometricMean weights (vs.map default)
  | .indri _, .wsum => ScoringTree.arithmeticMean weights (vs.map default)
  | _, _ => Scalar.ofNat 0

/-- What a combination makes of that which its arguments say of a document. -/
def combine (vs : List (Standing α)) : Standing α where
  isMatch := combinedMatch model op vs
  score := combinedScore model op weights vs
  default := combinedDefault model op weights vs

end Standing

namespace ScoringTree

variable [Scalar α] {index : Index} {model : RetrievalModel α} {doc : DocId}

/-- What a scoring tree says of a document. -/
def standing (index : Index) (model : RetrievalModel α) (doc : DocId) (t : ScoringTree α) :
    Standing α where
  isMatch := t.matchesDoc model doc
  score := (scoreAt index model doc t).toOption.getD (Scalar.ofNat 0)
  default := (defaultScore index model doc t).toOption.getD (Scalar.ofNat 0)

theorem standing_isMatch (t : ScoringTree α) :
    (t.standing index model doc).isMatch = t.matchesDoc model doc := rfl

omit [Scalar α] in
theorem allMatch_eq_all (ts : List (ScoringTree α)) :
    allMatch model doc ts = ts.all (matchesDoc model doc) := by
  induction ts with
  | nil => rfl
  | cons t ts ih => rw [allMatch, ih, List.all_cons]

omit [Scalar α] in
theorem anyMatches_eq_any (ts : List (ScoringTree α)) :
    anyMatches model doc ts = ts.any (matchesDoc model doc) := by
  induction ts with
  | nil => rfl
  | cons t ts ih => rw [anyMatches, ih, List.any_cons]

/-- A combination matches where its arguments put it. -/
theorem matchesDoc_combine (op : Operator) (ts : List (ScoringTree α)) (weights : List α)
    (current : Option DocId) : (combine op ts weights current).matchesDoc model doc =
      Standing.combinedMatch model op (ts.map (standing index model doc)) := by
  rw [matchesDoc, allMatch_eq_all, anyMatches_eq_any, Standing.combinedMatch, List.isEmpty_map,
    List.all_map, List.any_map]
  rfl

namespace Supported

variable {t : ScoringTree α} {ts : List (ScoringTree α)}

/-- The score of a document is the one that a run finds. -/
theorem scoreAt_eq_standing (supported : t.Supported model) :
    scoreAt index model doc t = .ok (t.standing index model doc).score := by
  obtain ⟨s, found⟩ := supported.scoreAt_ok index doc
  rw [standing, found]
  rfl

/-- The default score of a document, where there is one, is the one that a run finds. -/
theorem defaultScore_eq_standing (supported : t.Supported model)
    (smooths : model.smoothsMissing = true) :
    defaultScore index model doc t = .ok (t.standing index model doc).default := by
  obtain ⟨s, found⟩ := supported.defaultScore_ok_of_smoothsMissing smooths index doc
  rw [standing, found]
  rfl

theorem scoresOfAll_eq_standing (supported : ∀ t ∈ ts, t.Supported model) :
    scoresOfAll index model doc ts =
      .ok ((ts.map (standing index model doc)).map Standing.score) := by
  rw [scoresOfAll_eq_mapM, List.map_map]
  exact Except.mapM_eq_map fun t ht => (supported t ht).scoreAt_eq_standing

theorem scoresOfMatching_eq_standing (supported : ∀ t ∈ ts, t.Supported model) :
    scoresOfMatching index model doc ts =
      .ok ((ts.map (standing index model doc)).map Standing.score?) := by
  rw [scoresOfMatching_eq_mapM, List.map_map]
  refine Except.mapM_eq_map fun t ht => ?_
  rw [(supported t ht).scoreAt_eq_standing, Function.comp_apply, Standing.score?,
    standing_isMatch]
  split <;> rfl

theorem scoresWithDefaults_eq_standing (supported : ∀ t ∈ ts, t.Supported model)
    (smooths : model.smoothsMissing = true) :
    scoresWithDefaults index model doc ts =
      .ok ((ts.map (standing index model doc)).map Standing.smoothed) := by
  rw [scoresWithDefaults_eq_mapM, List.map_map]
  refine Except.mapM_eq_map fun t ht => ?_
  rw [(supported t ht).scoreAt_eq_standing, (supported t ht).defaultScore_eq_standing smooths,
    Function.comp_apply, Standing.smoothed, standing_isMatch]
  split <;> rfl

theorem defaultScores_eq_standing (supported : ∀ t ∈ ts, t.Supported model)
    (smooths : model.smoothsMissing = true) :
    defaultScores index model doc ts =
      .ok ((ts.map (standing index model doc)).map Standing.default) := by
  rw [defaultScores_eq_mapM, List.map_map]
  exact Except.mapM_eq_map fun t ht => (supported t ht).defaultScore_eq_standing smooths

variable {op : Operator} {weights : List α} {current : Option DocId}

/-- A combination has the score that its arguments give it. -/
theorem standing_combine_score (supported : ∀ t ∈ ts, t.Supported model) :
    ((ScoringTree.combine op ts weights current).standing index model doc).score =
      Standing.combinedScore model op weights (ts.map (standing index model doc)) := by
  rw [standing, scoreAt_combine, scoresOfAll_eq_standing supported,
    scoresOfMatching_eq_standing supported]
  cases model with
  | indri parameters =>
    rw [scoresWithDefaults_eq_standing supported rfl]
    rfl
  | unrankedBoolean | rankedBoolean | bm25 _ | letor _ _ =>
    -- only smoothing reads default scores
    cases op <;> rfl

/-- The default score of a combination is made of what its arguments say. -/
theorem standing_combine_default (supported : ∀ t ∈ ts, t.Supported model) :
    ((ScoringTree.combine op ts weights current).standing index model doc).default =
      Standing.combinedDefault model op weights (ts.map (standing index model doc)) := by
  cases model with
  | indri parameters =>
    have defaults : defaultScores index (.indri parameters) doc ts = _ :=
      defaultScores_eq_standing supported rfl
    cases op with
    | and | wand | wsum =>
      rw [standing, defaultScore, defaults]
      rfl
    | syn | near | window | score | or | sum => rfl
  | unrankedBoolean | rankedBoolean | bm25 _ | letor _ _ => cases op <;> rfl

/-- A combination says of a document what it makes of that which its arguments say of it. -/
theorem standing_combine (supported : ∀ t ∈ ts, t.Supported model) :
    (ScoringTree.combine op ts weights current).standing index model doc =
      Standing.combine model op weights (ts.map (standing index model doc)) := by
  rw [Standing.combine, ← standing_combine_score supported, ← standing_combine_default supported,
    ← matchesDoc_combine op ts weights current]
  rfl

end Supported

end ScoringTree

end RankedRetrieval
