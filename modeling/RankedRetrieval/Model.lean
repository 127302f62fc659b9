import RankedRetrieval.Query.Operator
import RankedRetrieval.Scalar

/-!
# Retrieval models

A retrieval model says which operators score documents, and how a term does.

## Main Definitions

* `Bm25`, `Indri` — the parameters of the two probabilistic models
* `RetrievalModel` — the models
* `Bm25.termScore`, `Indri.termScore` — the score of a term in a document

## Design Notes

Letting a program learn to rank is a model of its own: its first pass is BM25, and it carries
the parameters of both probabilistic models for its features.
-/

namespace RankedRetrieval

/-- The parameters of BM25. -/
structure Bm25 (α : Type) where
  /-- How soon the frequency of a term saturates. -/
  k1 : α
  /-- How much the length of a document counts. -/
  b : α
  /-- How soon the frequency of a query term saturates. -/
  k3 : α

/-- The parameters of two-stage smoothing. -/
structure Indri (α : Type) where
  /-- The weight of the collection in the first stage. -/
  mu : α
  /-- The share of the collection in the second stage. -/
  lambda : α

/-- The retrieval models. -/
inductive RetrievalModel (α : Type) where
  /-- Documents match or do not. -/
  | unrankedBoolean
  /-- Documents are ranked by term frequency. -/
  | rankedBoolean
  /-- BM25. -/
  | bm25 (parameters : Bm25 α)
  /-- Two-stage smoothing. -/
  | indri (parameters : Indri α)
  /-- Learning to rank. -/
  | letor (bm25 : Bm25 α) (indri : Indri α)

variable {α : Type}

/-! ### Term scores -/

section TermScores

variable [Scalar α]

/-- The usual parameters of BM25. -/
def Bm25.default : Bm25 α := ⟨1.2, 0.75, Scalar.ofNat 0⟩

/-- The usual parameters of two-stage smoothing. -/
def Indri.default : Indri α := ⟨Scalar.ofNat 2500, 0.4⟩

/-- The weight of a term that `df` of `n` documents hold; never negative. -/
def rsjWeight (df n : α) : α :=
  Scalar.greater (Scalar.ln (n - df + 0.5) - Scalar.ln (df + 0.5)) (Scalar.ofNat 0)

/-- What a term contributes to the score of a document. -/
def Bm25.termScore (p : Bm25 α) (tf df n docLength averageLength qtf : α) : α :=
  let tfWeight :=
    tf / (tf + p.k1 * ((Scalar.ofNat 1 - p.b) + p.b * docLength / averageLength))
  let userWeight := (p.k3 + Scalar.ofNat 1) * qtf / (p.k3 + qtf)
  rsjWeight df n * tfWeight * userWeight

/-- The smoothed probability of a term in a document.  With a frequency of zero it is the
default score of a document that lacks the term. -/
def Indri.termScore (p : Indri α) (tf ctf collectionLength docLength : α) : α :=
  let background :=
    if Scalar.less (Scalar.ofNat 0) collectionLength then ctf / collectionLength
    else Scalar.ofNat 0
  let bayesian := (tf + p.mu * background) / (docLength + p.mu)
  (Scalar.ofNat 1 - p.lambda) * bayesian + p.lambda * background

end TermScores

/-! ### Models -/

namespace RetrievalModel

/-- The name of a model. -/
def name : RetrievalModel α → String
  | unrankedBoolean => "UnrankedBoolean"
  | rankedBoolean => "RankedBoolean"
  | bm25 _ => "BM25"
  | indri _ => "Indri"
  | letor _ _ => "Letor"

/-- The operator that the words of a query are arguments of. -/
def defaultOperator : RetrievalModel α → Operator
  | unrankedBoolean | rankedBoolean => .or
  | bm25 _ | letor _ _ => .sum
  | indri _ => .and

/-- The model that ranks documents directly. -/
def firstPass : RetrievalModel α → RetrievalModel α
  | letor parameters _ => bm25 parameters
  | model => model

/-- Whether a model scores an operator. -/
def supports : RetrievalModel α → Operator → Bool
  | unrankedBoolean, op | rankedBoolean, op => [.score, .or, .and, .wand].contains op
  | bm25 _, op => [.score, .sum, .wsum].contains op
  | indri _, op => [.score, .and, .wand, .wsum].contains op
  | letor _ _, _ => false

/-- Whether an operator that asks for all arguments is content with one of them, because the
missing ones have a score of their own. -/
def smoothsMissing : RetrievalModel α → Bool
  | indri _ => true
  | _ => false

/-- The parameters of BM25 that a model carries, or the usual ones. -/
def bm25Parameters [Scalar α] : RetrievalModel α → Bm25 α
  | bm25 parameters => parameters
  | letor parameters _ => parameters
  | _ => Bm25.default

/-- The parameters of smoothing that a model carries, or the usual ones. -/
def indriParameters [Scalar α] : RetrievalModel α → Indri α
  | indri parameters => parameters
  | letor _ parameters => parameters
  | _ => Indri.default

end RetrievalModel

end RankedRetrieval
