import RankedRetrieval.Ranking.ScoreList
import RankedRetrieval.Scoring.Score

/-!
# Execution of queries

## Main Definitions

* `Query.execute` — the score list of a query

## Design Notes

The scoring tree is settled, scored and moved past its match until it has no further match.
Each step moves a cursor, so the postings of the tree bound the number of steps.  An operator
without arguments matches nothing, whatever the model.
-/

namespace RankedRetrieval.Query

variable {α : Type} [Scalar α]

/-- The matches of a scoring tree with their scores, in increasing order of documents.  The
first argument bounds the number of matches. -/
def scoreMatches (index : Index) (model : RetrievalModel α) :
    Nat → ScoringTree α → Except QueryError (List (ScoredDocument α))
  | 0, _ => .ok []
  | fuel + 1, tree =>
    let settled := tree.settle model
    match settled.current? with
    | none => .ok []
    | some doc =>
      match settled.score index model with
      | .error e => .error e
      | .ok score =>
        (scoreMatches index model fuel (settled.advancePast doc)).map fun entries =>
          ⟨doc, (index.externalId? doc).getD "", score⟩ :: entries

/-- The score list of a query, in increasing order of documents. -/
def execute [Numeral α] (index : Index) (model : RetrievalModel α) (q : Query α) :
    Except QueryError (ScoreList α) :=
  if q.isChildless then .ok ScoreList.empty
  else
    match q.scoringTree index model with
    | .error e => .error e
    | .ok tree => (scoreMatches index model (tree.remaining + 1) tree).map ScoreList.mk

end RankedRetrieval.Query
