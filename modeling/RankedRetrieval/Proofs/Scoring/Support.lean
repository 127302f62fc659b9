import RankedRetrieval.Proofs.Scoring.Combining

/-!
# Support of scoring trees

A scoring tree whose operators the model supports is scored without an error, wherever its
cursors are.

## Main Definitions

* `ScoringTree.Supported` — a tree all of whose operators are supported

## Main Results

* `ScoringTree.Supported.score_ok` — a supported tree has a score where it stands
* `ScoringTree.Supported.scoreAt_ok` — it has a score for every document
* `ScoringTree.Supported.defaultScore_ok` — under smoothing it has every default score

## Design Notes

Which operators are supported is written down once for the check when a tree is built, and again
in each function that scores; `combined_ok` is where these tables meet.
-/

namespace RankedRetrieval.ScoringTree

variable {α : Type} {model : RetrievalModel α}

/-- A tree all of whose operators are supported by a model. -/
inductive Supported (model : RetrievalModel α) : ScoringTree α → Prop where
  /-- A leaf is scored. -/
  | leaf {cursor : Cursor} {qtf : Nat} (supported : model.supports .score = true) :
      Supported model (leaf cursor qtf)
  /-- A combination is scored as one of its arguments. -/
  | combine {op : Operator} {args : List (ScoringTree α)} {weights : List α}
      {current : Option DocId} (supported : model.supports op = true) (structural : op ≠ .score)
      (args_supported : ∀ t ∈ args, Supported model t) :
      Supported model (combine op args weights current)

/-! ### Moving -/

mutual
theorem supported_rewind_iff :
    (t : ScoringTree α) → (t.rewind.Supported model ↔ t.Supported model)
  | leaf _ _ => ⟨fun | .leaf supported => .leaf supported, fun | .leaf supported => .leaf supported⟩
  | combine _ args _ _ =>
    ⟨fun | .combine supported structural rest =>
            .combine supported structural ((supported_rewindAll_iff args).1 rest),
      fun | .combine supported structural rest =>
            .combine supported structural ((supported_rewindAll_iff args).2 rest)⟩

theorem supported_rewindAll_iff :
    (ts : List (ScoringTree α)) →
      ((∀ t ∈ rewindAll ts, t.Supported model) ↔ ∀ t ∈ ts, t.Supported model)
  | [] => by simp [rewindAll]
  | t :: ts => by
    rw [rewindAll, List.forall_mem_cons, List.forall_mem_cons, supported_rewind_iff t,
      supported_rewindAll_iff ts]
end

/-- Moving cursors does not change which operators a tree has. -/
theorem Moved.supported {t later : ScoringTree α} (moved : Moved t later)
    (supported : t.Supported model) : later.Supported model := by
  rw [← supported_rewind_iff, moved.rewind_eq, supported_rewind_iff]
  exact supported

/-! ### Scores -/

variable [Scalar α]

theorem postingScore_ok (supported : model.supports .score = true) (index : Index)
    (list : InvertedList) (qtf : Nat) (p : Posting) :
    ∃ s, postingScore index model list qtf p = .ok s := by
  cases model with
  | letor _ _ => simp [RetrievalModel.supports] at supported
  | unrankedBoolean | rankedBoolean | bm25 _ | indri _ => exact ⟨_, rfl⟩

namespace Supported

variable {t : ScoringTree α}

/-- Under smoothing a supported tree has a default score for every document. -/
theorem defaultScore_ok {parameters : Indri α} (supported : t.Supported (.indri parameters))
    (index : Index) (doc : DocId) : ∃ s, defaultScore index (.indri parameters) doc t = .ok s := by
  induction supported with
  | leaf _ => exact ⟨_, rfl⟩
  | @combine op args weights current supported structural _ ih =>
    obtain ⟨scores, hscores⟩ := Except.mapM_ok ih
    rw [← defaultScores_eq_mapM] at hscores
    cases op with
    | and | wand | wsum => exact ⟨_, by rw [defaultScore, hscores]; rfl⟩
    | score => exact absurd rfl structural
    | syn | near | window | or | sum => simp [RetrievalModel.supports] at supported

/-- A default score is had where one is asked for. -/
theorem defaultScore_ok_of_smoothsMissing (supported : t.Supported model)
    (smooths : model.smoothsMissing = true) (index : Index) (doc : DocId) :
    ∃ s, defaultScore index model doc t = .ok s := by
  cases model with
  | indri parameters => exact supported.defaultScore_ok index doc
  | unrankedBoolean | rankedBoolean | bm25 _ | letor _ _ =>
    simp [RetrievalModel.smoothsMissing] at smooths

/-- A combination of supported arguments has a score, whichever of them are at its document. -/
theorem combined_ok_of_args {op : Operator} {args : List (ScoringTree α)} {weights : List α}
    {doc : DocId} {scoreArg : ScoringTree α → Except QueryError α}
    (supported : model.supports op = true) (structural : op ≠ .score)
    (args_supported : ∀ t ∈ args, t.Supported model) (index : Index)
    (here : ScoringTree α → Bool) (args_ok : ∀ t ∈ args, ∃ s, scoreArg t = .ok s) :
    ∃ s, combined model op weights (args.mapM scoreArg)
      (args.mapM fun t => if here t then (scoreArg t).map some else .ok none)
      (args.mapM fun t => if here t then scoreArg t else defaultScore index model doc t) =
        .ok s := by
  refine combined_ok supported structural (Except.mapM_ok args_ok) (Except.mapM_ok ?_) ?_
  · intro t ht
    obtain ⟨s, hs⟩ := args_ok t ht
    rw [hs]
    split
    · exact ⟨some s, rfl⟩
    · exact ⟨none, rfl⟩
  · intro smooths
    refine Except.mapM_ok fun t ht => ?_
    split
    · exact args_ok t ht
    · exact (args_supported t ht).defaultScore_ok_of_smoothsMissing smooths index doc

/-- A supported tree has a score for every document. -/
theorem scoreAt_ok (supported : t.Supported model) (index : Index) (doc : DocId) :
    ∃ s, scoreAt index model doc t = .ok s := by
  induction supported with
  | leaf supported =>
    rw [scoreAt, leafScoreAt]
    split
    · exact ⟨_, rfl⟩
    · exact postingScore_ok supported index _ _ _
  | combine supported structural args_supported ih =>
    rw [scoreAt_combine, scoresOfAll_eq_mapM, scoresOfMatching_eq_mapM,
      scoresWithDefaults_eq_mapM]
    exact combined_ok_of_args supported structural args_supported index _ ih

/-- A supported tree has a score wherever it stands. -/
theorem score_ok (supported : t.Supported model) (index : Index) :
    ∃ s, score index model t = .ok s := by
  induction supported with
  | leaf supported =>
    rw [score, leafScore]
    split
    · exact ⟨_, rfl⟩
    · exact postingScore_ok supported index _ _ _
  | @combine op args weights current supported structural args_supported ih =>
    cases current with
    | none => exact ⟨_, rfl⟩
    | some doc =>
      rw [score_combine, allScores_eq_mapM, matchingScores_eq_mapM, scoresOrDefaults_eq_mapM]
      exact combined_ok_of_args supported structural args_supported index _ ih

end Supported

end RankedRetrieval.ScoringTree
