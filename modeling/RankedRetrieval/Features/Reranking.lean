import RankedRetrieval.Index.Basic
import RankedRetrieval.Ranking.ScoreList

/-!
# Ranking by predicted scores

## Main Definitions

* `Reranking.rankings?` — the rankings that predicted scores give

## Design Notes

Every score belongs to the document and the query of the feature line that it was predicted for.
Queries keep the order in which they are first seen, and documents that are not in the index
have no place in a ranking.
-/

namespace RankedRetrieval.Reranking

variable {α : Type}

/-- Rankings with one more document in the ranking of a query. -/
def addTo (qid : String) (doc : DocId) (externalId : String) (score : α) :
    List (String × ScoreList α) → List (String × ScoreList α)
  | [] => [(qid, ScoreList.empty.add doc externalId score)]
  | (q, l) :: rest =>
    if q = qid then (q, l.add doc externalId score) :: rest
    else (q, l) :: addTo qid doc externalId score rest

/-- Rankings with the documents of some feature lines and their scores. -/
def collect (index : Index) :
    List (String × ScoreList α) → List ((String × String) × α) → List (String × ScoreList α)
  | lists, [] => lists
  | lists, ((qid, externalId), score) :: rest =>
    match index.internalId? externalId with
    | some doc => collect index (addTo qid doc externalId score lists) rest
    | none => collect index lists rest

/-- The rankings that predicted scores give; nothing when there is not one score for each feature
line. -/
def rankings? [Scalar α] (index : Index) (ids : List (String × String)) (predictions : List α) :
    Option (List (String × ScoreList α)) :=
  if ids.length = predictions.length then
    some ((collect index [] (ids.zip predictions)).map fun entry => (entry.1, entry.2.rank))
  else none

end RankedRetrieval.Reranking
