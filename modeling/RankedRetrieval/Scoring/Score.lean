import RankedRetrieval.Scoring.Match

/-!
# Scores

The score of a scoring tree at the document that it is at, and its default score for a document
that it does not match.

## Main Definitions

* `ScoringTree.score` — the score at the current document
* `ScoringTree.defaultScore` — the score of a document without a match
* `ScoringTree.shares` — weights scaled to a sum of one

## Design Notes

A tree that is at no document has score zero.  Only the smoothing model has default scores;
under the other models an argument that is at another document is left out.
-/

namespace RankedRetrieval.ScoringTree

variable {α : Type} [Scalar α]

/-- The score of a term at a posting. -/
def postingScore (index : Index) (model : RetrievalModel α) (list : InvertedList) (qtf : Nat)
    (p : Posting) : Except QueryError α :=
  let field := list.field
  match model with
  | .unrankedBoolean => .ok (Scalar.ofNat 1)
  | .rankedBoolean => .ok (Scalar.ofNat p.tf)
  | .bm25 parameters =>
    .ok (parameters.termScore (Scalar.ofNat p.tf) (Scalar.ofNat list.df)
      (Scalar.ofNat index.numDocs) (Scalar.ofNat (index.fieldLength field p.doc))
      (Scalar.ofNat (index.sumFieldLengths field) / Scalar.ofNat (index.docCount field))
      (Scalar.ofNat qtf))
  | .indri parameters =>
    .ok (parameters.termScore (Scalar.ofNat p.tf) (Scalar.ofNat list.ctf)
      (Scalar.ofNat (index.sumFieldLengths field))
      (Scalar.ofNat (index.fieldLength field p.doc)))
  | .letor _ _ => .error (Query.unsupported model .score)

/-- The score of a leaf. -/
def leafScore (index : Index) (model : RetrievalModel α) (cursor : Cursor) (qtf : Nat) :
    Except QueryError α :=
  match cursor.posting? with
  | none => .ok (Scalar.ofNat 0)
  | some p => postingScore index model cursor.list qtf p

/-- The default score of a leaf: that of a posting without occurrences. -/
def leafDefault (index : Index) (model : RetrievalModel α) (list : InvertedList) (doc : DocId) :
    Except QueryError α :=
  match model with
  | .indri parameters =>
    .ok (parameters.termScore (Scalar.ofNat 0) (Scalar.ofNat list.ctf)
      (Scalar.ofNat (index.sumFieldLengths list.field))
      (Scalar.ofNat (index.fieldLength list.field doc)))
  | _ => .error (Query.unsupported model .score)

/-! ### Combining scores -/

/-- Weights scaled to a sum of one; equal shares when their sum is not positive. -/
def shares (weights : List α) : List α :=
  let sum := Scalar.sum weights
  if Scalar.atMost sum (Scalar.ofNat 0) then
    weights.map fun _ => Scalar.ofNat 1 / Scalar.ofNat weights.length
  else weights.map fun w => w / sum

/-- The geometric mean of scores. -/
def geometricMean (weights scores : List α) : α :=
  Scalar.product (List.zipWith Scalar.pow scores (shares weights))

/-- The arithmetic mean of scores. -/
def arithmeticMean (weights scores : List α) : α :=
  Scalar.total (List.zipWith (· * ·) (shares weights) scores)

/-- The sum of the weighted scores of those arguments that have one, over the sum of all
weights. -/
def weightedSum (weights : List α) (scores : List (Option α)) : α :=
  Scalar.total
      ((List.zipWith (fun w score? => score?.map fun score => w * score) weights scores).filterMap
        id) /
    Scalar.sum weights

/-! ### Scores of trees -/

mutual
/-- The score of a document that a tree does not match. -/
def defaultScore (index : Index) (model : RetrievalModel α) (doc : DocId) :
    ScoringTree α → Except QueryError α
  | leaf cursor _ => leafDefault index model cursor.list doc
  | combine op args weights _ =>
    match model, op with
    | .indri _, .and | .indri _, .wand =>
      (defaultScores index model doc args).map (geometricMean weights)
    | .indri _, .wsum => (defaultScores index model doc args).map (arithmeticMean weights)
    | _, _ => .error (Query.unsupported model op)

/-- The default scores of some trees. -/
def defaultScores (index : Index) (model : RetrievalModel α) (doc : DocId) :
    List (ScoringTree α) → Except QueryError (List α)
  | [] => .ok []
  | t :: ts =>
    match defaultScore index model doc t with
    | .error e => .error e
    | .ok score => (defaultScores index model doc ts).map fun scores => score :: scores
end

mutual
/-- The score of a tree at the document that it is at. -/
def score (index : Index) (model : RetrievalModel α) : ScoringTree α → Except QueryError α
  | leaf cursor qtf => leafScore index model cursor qtf
  | combine _ _ _ none => .ok (Scalar.ofNat 0)
  | combine op args weights (some doc) =>
    match model, op with
    | .unrankedBoolean, .or | .unrankedBoolean, .and | .unrankedBoolean, .wand =>
      .ok (Scalar.ofNat 1)
    | .rankedBoolean, .or =>
      (matchingScores index model doc args).map fun scores =>
        (scores.filterMap id).foldl Scalar.greater (Scalar.ofNat 0)
    | .rankedBoolean, .and | .rankedBoolean, .wand =>
      (allScores index model args).map fun scores => scores.foldl Scalar.lesser Scalar.greatest
    | .bm25 _, .sum =>
      (matchingScores index model doc args).map fun scores => Scalar.total (scores.filterMap id)
    | .bm25 _, .wsum => (matchingScores index model doc args).map (weightedSum weights)
    | .indri _, .and | .indri _, .wand =>
      (scoresOrDefaults index model doc args).map (geometricMean weights)
    | .indri _, .wsum => (scoresOrDefaults index model doc args).map (arithmeticMean weights)
    | _, _ => .error (Query.unsupported model op)

/-- The scores of some trees. -/
def allScores (index : Index) (model : RetrievalModel α) :
    List (ScoringTree α) → Except QueryError (List α)
  | [] => .ok []
  | t :: ts =>
    match score index model t with
    | .error e => .error e
    | .ok s => (allScores index model ts).map fun scores => s :: scores

/-- The scores of those of some trees that are at a document. -/
def matchingScores (index : Index) (model : RetrievalModel α) (doc : DocId) :
    List (ScoringTree α) → Except QueryError (List (Option α))
  | [] => .ok []
  | t :: ts =>
    if t.isAt doc then
      match score index model t with
      | .error e => .error e
      | .ok s => (matchingScores index model doc ts).map fun scores => some s :: scores
    else (matchingScores index model doc ts).map fun scores => none :: scores

/-- The scores of the trees that are at a document, and the default scores of the others. -/
def scoresOrDefaults (index : Index) (model : RetrievalModel α) (doc : DocId) :
    List (ScoringTree α) → Except QueryError (List α)
  | [] => .ok []
  | t :: ts =>
    match if t.isAt doc then score index model t else defaultScore index model doc t with
    | .error e => .error e
    | .ok s => (scoresOrDefaults index model doc ts).map fun scores => s :: scores
end

end RankedRetrieval.ScoringTree
