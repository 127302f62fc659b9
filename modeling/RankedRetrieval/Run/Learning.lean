import RankedRetrieval.Features.Normalization
import RankedRetrieval.Run.Retrieval

/-!
# Learning to rank

Features of judged documents are given to a program that learns, and the results of queries are
ranked by the scores that it predicts from their features.

## Main Definitions

* `LearningRun.featureRows` — the feature rows of the documents of a query
* `LearningRun.train`, `LearningRun.test`, `LearningRun.rerank` — the three stages
* `LearningRun.run` — a run over a file of queries

## Design Notes

The results of the first pass are written too, and are replaced in the last stage.  The features
of the documents of one query are scaled together.
-/

namespace RankedRetrieval.LearningRun

variable {α : Type} [Scalar α] [Numeral α]

/-- The feature rows of documents of a query with their relevance.  Documents that are not in
the index are left out. -/
def featureRows (x : FeatureExtractor α) (pageRanks : Table String α) (qid : String)
    (terms : QueryTerms) (docs : List (String × Int)) : List (FeatureRow α) :=
  let rows := docs.filterMap fun entry =>
    (x.index.internalId? entry.1).map fun doc =>
      (entry, x.extract terms doc (pageRanks.get? entry.1))
  let scaled := FeatureVector.normalize (rows.map Prod.snd)
  List.zipWith
    (fun entry features => { qid, externalId := entry.1, relevance := entry.2, features })
    (rows.map Prod.fst) scaled

/-- The lines of feature rows. -/
def lines (x : FeatureExtractor α) (rows : List (FeatureRow α)) : String :=
  String.join (rows.map (FeatureRow.text x.disabled))

/-! ### Training -/

/-- The documents of a query that judges have judged. -/
def judged (judgments : Table String (List Judgment)) (qid : String) : List (String × Int) :=
  ((judgments.get? qid).getD []).map fun j => (j.externalId, j.relevance)

/-- The feature lines to learn from of a query. -/
def trainingStep (x : FeatureExtractor α) (model : RetrievalModel α)
    (pageRanks : Table String α) (judgments : Table String (List Judgment))
    (query : String × String) : Step String :=
  Step.ofExcept "" ((Retrieval.parse model query.2).map fun q? =>
    lines x ((q?.map fun q =>
      featureRows x pageRanks query.1 q.terms (judged judgments query.1)).getD []))

/-- Writes the features to learn from, and learns. -/
def train (host : Host) (x : FeatureExtractor α) (model : RetrievalModel α)
    (pageRanks : Table String α) (l : LearningRun α) : Action Unit := do
  let judgments ← Action.input (Input.judgments · l.trainingJudgments)
  Action.create l.trainingFeatures
  let queries ← Action.input (Input.queries · l.trainingQueries)
  let (written, stop?) := Step.collect (trainingStep x model pageRanks judgments) queries
  Action.write l.trainingFeatures (String.join written)
  Action.stop stop?
  Action.close l.trainingFeatures (String.join written)
  Action.program host l.learner ["-c", Numeral.text l.cost, l.trainingFeatures, l.modelFile]

/-! ### Testing -/

/-- What is written for a query, in pieces: its results and their features. -/
structure Entry where
  /-- The pieces of the lines of the results. -/
  results : List String
  /-- The pieces of the feature lines. -/
  features : List String

/-- Nothing. -/
def Entry.empty : Entry := ⟨[], []⟩

/-- The pieces of an entry in the order in which they are written.  The first of the two writers
is that of the results. -/
def Entry.pieces (entry : Entry) : List (Writer.Side × String) :=
  entry.results.map (Prod.mk .first) ++ entry.features.map (Prod.mk .second)

/-- What is written for a query with its results. -/
def testingEntry (x : FeatureExtractor α) (pageRanks : Table String α) (qid : String)
    (q : Query α) (list : ScoreList α) : Entry where
  results := RankingFile.pieces qid list
  features :=
    (featureRows x pageRanks qid q.terms (list.entries.map fun e => (e.externalId, 0))).flatMap
      (FeatureRow.pieces x.disabled)

/-- What is written for a query in the first pass. -/
def testingStep (index : Index) (x : FeatureExtractor α) (model : RetrievalModel α)
    (pageRanks : Table String α) (query : String × String) : Step Entry :=
  match Retrieval.parse model query.2 with
  | .error e => ⟨Entry.empty, some e⟩
  | .ok none => ⟨Entry.empty, none⟩
  | .ok (some q) =>
    Step.ofExcept Entry.empty ((Retrieval.results index model q).map fun list? =>
      (list?.map (testingEntry x pageRanks query.1 q)).getD Entry.empty)

/-- Writes the results of the first pass and their features. -/
def test (index : Index) (x : FeatureExtractor α) (p : RunParameters α)
    (pageRanks : Table String α) (l : LearningRun α) : Action Unit := do
  Action.create p.output
  Action.create l.testingFeatures
  let queries ← Action.input (Input.queries · p.queries)
  let (entries, stop?) :=
    Step.collect (testingStep index x p.model.firstPass pageRanks) queries
  let pieces := entries.flatMap Entry.pieces
  Action.writeBoth p.output l.testingFeatures pieces (if stop?.isSome then .first else .second)
  Action.stop stop?
  Action.close p.output (Writer.textOf .first pieces)
  Action.close l.testingFeatures (Writer.textOf .second pieces)

/-! ### Ranking -/

/-- Has the scores of the feature lines predicted, and writes the rankings that they give. -/
def rerank (host : Host) (index : Index) (p : RunParameters α) (l : LearningRun α) :
    Action Unit := do
  Action.program host l.classifier [l.testingFeatures, l.modelFile, l.predictions]
  let ids ← Action.input (Input.featureIds · l.testingFeatures)
  let scores : List α ← Action.input (Input.predictions · l.predictions)
  let rankings ← Action.input fun _ => Input.reranked index ids scores
  Action.create p.output
  let written := String.join (rankings.map fun entry => RankingFile.text entry.1 entry.2)
  Action.write p.output written
  Action.close p.output written

/-- The page ranks, if there are any. -/
def readPageRanks (l : LearningRun α) : Action (Table String α) :=
  match l.pageRanks with
  | none => pure ∅
  | some path => Action.input (Input.pageRanks · path)

/-- Learns from one file of queries and ranks the results of another one. -/
def run (host : Host) (index : Index) (p : RunParameters α) (l : LearningRun α) :
    Action Unit := do
  let x := FeatureExtractor.ofModel index p.model l.disabled
  let pageRanks ← l.readPageRanks
  l.train host x p.model.firstPass pageRanks
  l.test index x p pageRanks
  l.rerank host index p

end RankedRetrieval.LearningRun
