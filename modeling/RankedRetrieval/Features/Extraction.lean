import RankedRetrieval.Index.Basic
import RankedRetrieval.Model
import RankedRetrieval.Query.Tree
import RankedRetrieval.Text.Blank

/-!
# Features

What a learning program is told of a document under a query.

## Main Definitions

* `QueryTerms` — the terms of a query with their frequencies
* `Feature` — the features
* `FeatureExtractor.extract` — the feature vector of a document

## Design Notes

A feature is missing when it is disabled or when the document gives no signal for it.  A field
whose words are all stop words gives no signal.
-/

namespace RankedRetrieval

/-- Terms in increasing order, with their frequencies. -/
abbrev QueryTerms := List (String × Nat)

/-- The features of a document, in order; some of them may be missing. -/
abbrev FeatureVector (α : Type) := List (Option α)

namespace Query

variable {α : Type}

/-- The stem of a query that is a term, scored or not. -/
def plainTerm? (q : Query α) : Option String :=
  match q.unwrapScore with
  | term stem _ => some stem
  | apply _ _ _ => none

/-- The terms with their frequencies that a list of stems holds. -/
def countTerms (stems : List String) : QueryTerms :=
  ((FieldTokens.distinct stems).mergeSort (fun a b => a ≤ b)).map fun stem =>
    (stem, stems.count stem)

/-- The terms right under the outermost operator of a query with their frequencies; nested
operators are left out. -/
def terms (q : Query α) : QueryTerms :=
  match q with
  | term stem field => countTerms (term stem field : Query α).plainTerm?.toList
  | apply .score args weights => countTerms (apply .score args weights).plainTerm?.toList
  | apply _ args _ => countTerms (args.filterMap plainTerm?)

end Query

/-- The features of a document. -/
inductive Feature where
  /-- The score that is stored with the document. -/
  | storedScore
  /-- The number of slashes in its address. -/
  | addressDepth
  /-- Whether its address lies in the reference site. -/
  | referenceSite
  /-- Its page rank. -/
  | pageRank
  /-- The BM25 score of a field. -/
  | bm25 (field : String)
  /-- The smoothed score of a field. -/
  | indri (field : String)
  /-- The share of the query's terms that a field holds. -/
  | overlap (field : String)
  /-- The number of words of the body. -/
  | bodyLength
  /-- The share of the body's words that are no stop words. -/
  | contentShare

namespace Feature

/-- The fields that are scored. -/
def scoredFields : List String := ["body", "title", "url", "inlink"]

/-- The features in the order of their numbers, which start at one. -/
def all : List Feature :=
  [storedScore, addressDepth, referenceSite, pageRank]
    ++ scoredFields.flatMap (fun field => [bm25 field, indri field, overlap field])
    ++ [bodyLength, contentShare]

/-- The number of features. -/
def count : Nat := all.length

/-- What addresses of the reference site hold. -/
def referenceAddress : String := "wikipedia.org"

end Feature

/-- What is needed to extract features. -/
structure FeatureExtractor (α : Type) where
  /-- The index. -/
  index : Index
  /-- The parameters of BM25. -/
  bm25 : Bm25 α
  /-- The parameters of smoothing. -/
  indri : Indri α
  /-- The numbers of the features that are left out. -/
  disabled : List Nat

namespace FeatureExtractor

variable {α : Type} [Scalar α]

/-- The extractor for a model, with the usual parameters where the model has none. -/
def ofModel (index : Index) (model : RetrievalModel α) (disabled : List Nat) :
    FeatureExtractor α :=
  ⟨index, model.bm25Parameters, model.indriParameters, disabled⟩

/-- A field of a document that holds at least one stem. -/
def vector? (x : FeatureExtractor α) (doc : DocId) (field : String) : Option TermVector :=
  (x.index.termVector? doc field).filter fun v => !v.isEmpty

/-- The frequency of a term in a query, if the query holds it. -/
def frequency? (terms : QueryTerms) (stem : String) : Option Nat :=
  (terms.find? fun entry => entry.1 = stem).map Prod.snd

/-- The BM25 score of a field: the sum over its stems that the query holds. -/
def bm25Score (x : FeatureExtractor α) (terms : QueryTerms) (doc : DocId) (field : String)
    (v : TermVector) : α :=
  let docLength : α := Scalar.ofNat (x.index.fieldLength field doc)
  let averageLength : α :=
    Scalar.ofNat (x.index.sumFieldLengths field) / Scalar.ofNat (x.index.docCount field)
  Scalar.sum (v.stems.filterMap fun s =>
    (frequency? terms s.stem).map fun qtf =>
      x.bm25.termScore (Scalar.ofNat s.freq) (Scalar.ofNat s.df) (Scalar.ofNat x.index.numDocs)
        docLength averageLength (Scalar.ofNat qtf))

/-- The smoothed score of one term in a field. -/
def indriTermScore (x : FeatureExtractor α) (field : String) (v : TermVector) (term : String) :
    α :=
  let docLength : α := Scalar.ofNat v.length
  let collectionLength : α := Scalar.ofNat (x.index.sumFieldLengths field)
  match v.stem? term with
  | some s =>
    x.indri.termScore (Scalar.ofNat s.freq) (Scalar.ofNat s.ctf) collectionLength docLength
  | none =>
    x.indri.termScore (Scalar.ofNat 0) (Scalar.ofNat (x.index.termCollectionFreq term field))
      collectionLength docLength

/-- The smoothed score of a field: the geometric mean over the terms, zero when the field holds
none of them. -/
def indriScore (x : FeatureExtractor α) (terms : QueryTerms) (field : String) (v : TermVector) :
    α :=
  if terms.any fun entry => (v.stem? entry.1).isSome then
    let share : α := Scalar.ofNat 1 / Scalar.ofNat terms.length
    Scalar.product (terms.map fun entry =>
      Scalar.pow (x.indriTermScore field v entry.1) share)
  else Scalar.ofNat 0

/-- The share of the terms that a field holds. -/
def overlapShare (terms : QueryTerms) (v : TermVector) : α :=
  if terms.isEmpty then Scalar.ofNat 0
  else
    Scalar.ofNat (terms.countP fun entry => (v.stem? entry.1).isSome) /
      Scalar.ofNat terms.length

/-- The share of the words of a field that are no stop words. -/
def contentShare (v : TermVector) : α :=
  Scalar.ofNat (v.length - v.stopwordCount) / Scalar.ofNat v.length

variable [Numeral α]

/-- The value of a feature. -/
def value? (x : FeatureExtractor α) (terms : QueryTerms) (doc : DocId) (pageRank : Option α) :
    Feature → Option α
  | .storedScore =>
    (x.index.storedAttribute? "score" doc).bind fun s => (Numeral.read (Text.trim s)).toOption
  | .addressDepth =>
    (x.index.storedAttribute? "rawUrl" doc).map fun url =>
      Scalar.ofNat (url.toList.count '/')
  | .referenceSite =>
    (x.index.storedAttribute? "rawUrl" doc).map fun url =>
      Scalar.ofNat (if Text.contains Feature.referenceAddress url then 1 else 0)
  | .pageRank => pageRank
  | .bm25 field => (x.vector? doc field).map (x.bm25Score terms doc field)
  | .indri field => (x.vector? doc field).map (x.indriScore terms field)
  | .overlap field => (x.vector? doc field).map (overlapShare terms)
  | .bodyLength => some (Scalar.ofNat (x.index.fieldLength "body" doc))
  | .contentShare => (x.vector? doc "body").map contentShare

/-- The values of features that are numbered from a number on; disabled ones are missing. -/
def valuesFrom (x : FeatureExtractor α) (terms : QueryTerms) (doc : DocId)
    (pageRank : Option α) : Nat → List Feature → FeatureVector α
  | _, [] => []
  | n, feature :: rest =>
    (if x.disabled.contains n then none else x.value? terms doc pageRank feature)
      :: x.valuesFrom terms doc pageRank (n + 1) rest

/-- The feature vector of a document under a query. -/
def extract (x : FeatureExtractor α) (terms : QueryTerms) (doc : DocId) (pageRank : Option α) :
    FeatureVector α :=
  x.valuesFrom terms doc pageRank 1 Feature.all

end FeatureExtractor

end RankedRetrieval
