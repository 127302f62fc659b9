import RankedRetrieval.Proofs.Scoring.Calls
import RankedRetrieval.Proofs.Scoring.Faults
import RankedRetrieval.Ranking.Execution

/-!
# Failure of queries

Whether a query fails, and with which error, is known once its scoring tree is to be built.  It
is the same over every index, and nothing fails later.

## Main Definitions

* `ScoringTree.Within` — the trees within a tree
* `Query.FailsOnlyAtBuilding` — a query that fails alike over two indexes, and not while it is
  scored

## Main Results

* `Query.scoreMatches_ok` — a run over a supported tree does not fail
* `Query.failure?_execute` — executing a query fails with its fault, unless it has no arguments
* `Query.failsOnlyAtBuilding` — every query fails only when its tree is built

## Design Notes

An operator without arguments is never built when it is executed: it yields nothing, even where
its model does not support it.
-/

namespace RankedRetrieval

variable {α : Type} {model : RetrievalModel α}

namespace ScoringTree

/-- The trees within a tree: the tree itself and those within its arguments. -/
inductive Within : ScoringTree α → ScoringTree α → Prop where
  /-- A tree is within itself. -/
  | self (t : ScoringTree α) : Within t t
  /-- What is within an argument is within the combination. -/
  | arg {part t : ScoringTree α} {op : Operator} {args : List (ScoringTree α)}
      {weights : List α} {current : Option DocId} (member : t ∈ args) (within : Within part t) :
      Within part (combine op args weights current)

theorem Supported.of_within {part t : ScoringTree α} (supported : t.Supported model)
    (within : part.Within t) : part.Supported model := by
  induction within with
  | self => exact supported
  | arg member _ ih =>
    cases supported with
    | combine _ _ args_supported => exact ih (args_supported _ member)

end ScoringTree

namespace Query

open ScoringTree

variable [Scalar α]

/-- A run over a supported tree does not fail. -/
theorem scoreMatches_ok (index : Index) {t : ScoringTree α} (supported : t.Supported model)
    (fuel : Nat) : ∃ entries, scoreMatches index model fuel t = .ok entries := by
  induction fuel generalizing t with
  | zero => exact ⟨[], rfl⟩
  | succ fuel ih =>
    have settled : (t.settle model).Supported model := (moved_settle t).supported supported
    rw [scoreMatches]
    cases (t.settle model).current? with
    | none => exact ⟨[], rfl⟩
    | some doc =>
      obtain ⟨s, scored⟩ := settled.score_ok index
      have passed : Moved (t.settle model) ((t.settle model).advancePast doc) := by
        rw [advancePast_eq_advanceTo]
        exact moved_advanceTo (doc + 1) _
      obtain ⟨entries, run⟩ := ih (passed.supported settled)
      simp only [scored, run, Except.map]
      exact ⟨_, rfl⟩

variable [Numeral α]

/-- Executing a query fails with its fault; an operator without arguments is never faulty
there. -/
theorem failure?_execute (index : Index) (model : RetrievalModel α) (q : Query α) :
    (q.execute index model).failure? = if q.isChildless then none else q.fault? model := by
  rw [execute, ← failure?_scoringTree index model q]
  split
  · rfl
  · cases built : q.scoringTree index model with
    | error e => rfl
    | ok tree =>
      obtain ⟨entries, run⟩ :=
        scoreMatches_ok index (supported_of_scoringTree built) (tree.remaining + 1)
      simp only [run, Except.map, Except.failure?_ok]

/-- A query that fails alike over two indexes, and only when its scoring tree is built. -/
structure FailsOnlyAtBuilding (index other : Index) (model : RetrievalModel α) (q : Query α) :
    Prop where
  /-- Building its tree fails with one error over both indexes, or over neither. -/
  scoringTree_alike :
    (q.scoringTree index model).failure? = (q.scoringTree other model).failure?
  /-- Executing it fails with one error over both indexes, or over neither. -/
  execute_alike : (q.execute index model).failure? = (q.execute other model).failure?
  /-- Once its tree is built, executing it yields a score list. -/
  execute_ok : ∀ tree, q.scoringTree index model = .ok tree →
    ∃ scores, q.execute index model = .ok scores
  /-- Wherever calls have moved the tree, every tree within it has a score. -/
  score_ok : ∀ tree, q.scoringTree index model = .ok tree →
    ∀ (calls : List Call) (part : ScoringTree α), part.Within (after model calls tree) →
    ∃ s, score index model part = .ok s
  /-- Under smoothing, every tree within it has a default score for every document. -/
  defaultScore_ok : ∀ tree, q.scoringTree index model = .ok tree →
    ∀ parameters, model = .indri parameters →
    ∀ (calls : List Call) (part : ScoringTree α), part.Within (after model calls tree) →
    ∀ doc, ∃ s, defaultScore index model doc part = .ok s

/-- Every query fails only when its scoring tree is built, and alike over any two indexes. -/
theorem failsOnlyAtBuilding (index other : Index) (model : RetrievalModel α) (q : Query α) :
    FailsOnlyAtBuilding index other model q where
  scoringTree_alike := by rw [failure?_scoringTree, failure?_scoringTree]
  execute_alike := by rw [failure?_execute, failure?_execute]
  execute_ok tree built := by
    have no_fault : q.fault? model = none := by
      rw [← failure?_scoringTree index model q, built, Except.failure?_ok]
    rw [← Except.failure?_eq_none_iff, failure?_execute, no_fault, ite_self]
  score_ok tree built calls part within := by
    have supported : (after model calls tree).Supported model :=
      (moved_after calls tree).supported (supported_of_scoringTree built)
    exact (supported.of_within within).score_ok index
  defaultScore_ok tree built parameters smooths calls part within doc := by
    subst smooths
    have supported : (after (.indri parameters) calls tree).Supported (.indri parameters) :=
      (moved_after calls tree).supported (supported_of_scoringTree built)
    exact (supported.of_within within).defaultScore_ok index doc

end Query

end RankedRetrieval
