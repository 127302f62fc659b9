import RankedRetrieval.Index.Basic
import RankedRetrieval.Model

/-!
# Query expansion

The best documents of a ranking are taken to be relevant, and the terms that are typical of them
are added to the query.

## Main Definitions

* `FeedbackParameters` — how many documents and terms are taken, and how they are weighted
* `Expansion.scoreTerms` — the best terms of some documents
* `Expansion.query` — the query of some terms
* `Expansion.expand` — the query of the best terms
* `Expansion.combine` — a query mixed with its expansion

## Design Notes

A term is scored by its smoothed probability in each document, weighted by the score of the
document and by the rarity of the term.  Terms that hold a point or a comma would not survive
the query language and are not considered.
-/

namespace RankedRetrieval

/-- The parameters of feedback. -/
structure FeedbackParameters (α : Type) where
  /-- The number of documents. -/
  docs : Nat
  /-- The number of terms. -/
  terms : Nat
  /-- The weight of the collection in the smoothing. -/
  mu : α
  /-- The weight of the query without expansion. -/
  queryWeight : α

namespace Expansion

variable {α : Type} [Scalar α]

/-- The usual parameters. -/
def defaultParameters : FeedbackParameters α := ⟨10, 10, Scalar.ofNat 0, 0.5⟩

/-- The field that terms are taken from. -/
def field : String := "keywords"

/-- Whether a stem is unfit for the query language. -/
def isMalformed (stem : String) : Bool :=
  stem.toList.any fun c => c = '.' || c = ','

/-- The stems of a field of a document. -/
def stemsOf (index : Index) (field : String) (doc : DocId) : List String :=
  ((index.termVector? doc field).map fun v => v.stems.map StemStatistics.stem).getD []

/-- The terms that some documents hold, each once. -/
def candidates (index : Index) (field : String) (docs : List DocId) : List String :=
  FieldTokens.distinct ((docs.flatMap (stemsOf index field)).filter fun stem => !isMalformed stem)

/-- The occurrences of a term in a field of a document.  A document lists every stem once; where
one is listed again, the last entry counts. -/
def frequency (index : Index) (field term : String) (doc : DocId) : Nat :=
  (((index.termVector? doc field).bind fun v => v.stems.reverse.find? fun s => s.stem = term).map
    StemStatistics.freq).getD 0

/-- What a document contributes to the score of a term. -/
def contribution (index : Index) (mu : α) (field term : String) (doc : DocId × α) : α :=
  let background : α :=
    Scalar.ofNat (index.termCollectionFreq term field) /
      Scalar.ofNat (index.sumFieldLengths field)
  let rarity := Scalar.ln (Scalar.ofNat 1 / background)
  let probability :=
    (Scalar.ofNat (frequency index field term doc.1) + mu * background) /
      (Scalar.ofNat (index.fieldLength field doc.1) + mu)
  probability * doc.2 * rarity

/-- The score of a term over some documents. -/
def termScore (index : Index) (mu : α) (field : String) (docs : List (DocId × α))
    (term : String) : α :=
  Scalar.sum (docs.map (contribution index mu field term))

/-- Whether a scored term may stand before another one: the better score first, then the lesser
term. -/
def precedes (a b : String × α) : Bool :=
  Scalar.ranksBelow b.2 a.2 && (!Scalar.ranksBelow a.2 b.2 || a.1 ≤ b.1)

/-- The best terms of the first documents of a ranking, with their scores. -/
def scoreTerms (index : Index) (ranking : List (DocId × α)) (p : FeedbackParameters α)
    (field : String) : List (String × α) :=
  let docs := ranking.take p.docs
  let scored :=
    (candidates index field (docs.map Prod.fst)).map fun term =>
      (term, termScore index p.mu field docs term)
  (scored.mergeSort precedes).take p.terms

variable [Numeral α]

/-- A term with its weight, as it stands in a query. -/
def weightedTerm (scored : String × α) : String :=
  Numeral.fixed 4 scored.2 ++ " " ++ scored.1

/-- The operator of an expansion. -/
def operator (model : RetrievalModel α) : Operator :=
  if model.supports .wand then .wand else .wsum

/-- The query of scored terms, the lowest score first. -/
def query (model : RetrievalModel α) (terms : List (String × α)) : String :=
  (operator model).text ++ "(" ++ " ".intercalate (terms.reverse.map weightedTerm) ++ ")"

/-- The query of the best terms of a ranking. -/
def expand (index : Index) (ranking : List (DocId × α)) (p : FeedbackParameters α)
    (model : RetrievalModel α) : String :=
  query model (scoreTerms index ranking p field)

/-- A query under the model's default operator, mixed with its expansion. -/
def combine (p : FeedbackParameters α) (model : RetrievalModel α) (query expansion : String) :
    String :=
  Operator.wsum.text ++ "(" ++ Numeral.text p.queryWeight ++ " "
    ++ model.defaultOperator.text ++ "(" ++ query ++ ") "
    ++ Numeral.text (Scalar.ofNat 1 - p.queryWeight) ++ " " ++ expansion ++ ")"

end Expansion

end RankedRetrieval
