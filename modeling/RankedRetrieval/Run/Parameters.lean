import RankedRetrieval.Features.Extraction
import RankedRetrieval.Feedback.Expansion
import RankedRetrieval.Model
import RankedRetrieval.Run.Settings
import RankedRetrieval.Text.AsciiCase
import RankedRetrieval.Unicode.LowerCase

/-!
# Parameters of a run

## Main Definitions

* `FeedbackRun`, `LearningRun` — the parameters of the two runs that do more than retrieval
* `RunParameters` — the parameters of a run
* `RunParameters.parse` — the parameters that a text sets

## Design Notes

Values are read in a fixed order, and the first fault is the one that is reported: the model
comes first, then feedback, then learning to rank, and the files of every run last.
-/

namespace RankedRetrieval

/-- The parameters of a run with feedback. -/
structure FeedbackRun (α : Type) where
  /-- How queries are expanded. -/
  parameters : FeedbackParameters α
  /-- The file with a ranking to expand from; without one the queries are run first. -/
  initialRanking : Option String
  /-- The file that expansions are written to. -/
  expansions : String

/-- The parameters of a run that learns to rank. -/
structure LearningRun (α : Type) where
  /-- The file with the queries to learn from. -/
  trainingQueries : String
  /-- The file with the judgments to learn from. -/
  trainingJudgments : String
  /-- The file that the features to learn from are written to. -/
  trainingFeatures : String
  /-- The file with the page ranks. -/
  pageRanks : Option String
  /-- The numbers of the features that are left out, in increasing order. -/
  disabled : List Nat
  /-- The program that learns. -/
  learner : String
  /-- The program that predicts scores. -/
  classifier : String
  /-- What the learner pays for an error. -/
  cost : α
  /-- The file that the learner writes its model to. -/
  modelFile : String
  /-- The file that the features of the results are written to. -/
  testingFeatures : String
  /-- The file that the classifier writes its scores to. -/
  predictions : String

/-- The parameters of a run. -/
structure RunParameters (α : Type) where
  /-- The directory of the index. -/
  index : String
  /-- The file with the queries. -/
  queries : String
  /-- The file that the results are written to. -/
  output : String
  /-- The retrieval model. -/
  model : RetrievalModel α
  /-- Feedback, if queries are expanded. -/
  feedback : Option (FeedbackRun α)
  /-- Learning, if results are ranked by a learning program. -/
  learning : Option (LearningRun α)

namespace RunParameters

variable {α : Type} [Scalar α] [Numeral α]

/-- The retrieval model.  Learning has the usual parameters unless they are set. -/
def readModel (s : Settings) : Except ParameterError (RetrievalModel α) := do
  let name ← s.required "retrievalAlgorithm"
  let usual : Bm25 α := Bm25.default
  let smooth : Indri α := Indri.default
  match String.ofList (Unicode.lowerCase name.toList) with
  | "unrankedboolean" => return .unrankedBoolean
  | "rankedboolean" => return .rankedBoolean
  | "bm25" =>
    let k1 ← s.scalar "BM25:k_1"
    let b ← s.scalar "BM25:b"
    let k3 ← s.scalar "BM25:k_3"
    return .bm25 ⟨k1, b, k3⟩
  | "indri" =>
    let mu ← s.scalar "Indri:mu"
    let lambda ← s.scalar "Indri:lambda"
    return .indri ⟨mu, lambda⟩
  | "letor" =>
    let k1 ← s.scalarOr usual.k1 "BM25:k_1"
    let b ← s.scalarOr usual.b "BM25:b"
    let k3 ← s.scalarOr usual.k3 "BM25:k_3"
    let mu ← s.scalarOr smooth.mu "Indri:mu"
    let lambda ← s.scalarOr smooth.lambda "Indri:lambda"
    return .letor ⟨k1, b, k3⟩ ⟨mu, lambda⟩
  | other => throw (.unknownModel other)

/-- The parameters of feedback. -/
def readFeedback (s : Settings) : Except ParameterError (FeedbackRun α) := do
  let docs ← s.size "fbDocs"
  let terms ← s.size "fbTerms"
  let mu ← s.scalar "fbMu"
  let queryWeight : α ← s.scalar "fbOrigWeight"
  if Scalar.atMost (Scalar.ofNat 0) queryWeight
      && Scalar.atMost queryWeight (Scalar.ofNat 1) then
    let expansions ← s.required "fbExpansionQueryFile"
    return ⟨⟨docs, terms, mu, queryWeight⟩, s.get? "fbInitialRankingFile", expansions⟩
  else throw (.weightOutOfRange (Numeral.text queryWeight))

/-- The number of a feature. -/
def readFeature (text : String) : Except ParameterError Nat :=
  match Decimal.readNat Decimal.greatestSize text with
  | .error cause => .error (.badFeature text cause)
  | .ok n =>
    if n = 0 ∨ Feature.count < n then .error (.featureOutOfRange n Feature.count) else .ok n

/-- The numbers of features, from left to right. -/
def readFeatures : List String → Except ParameterError (List Nat)
  | [] => .ok []
  | text :: rest =>
    match readFeature text with
    | .error e => .error e
    | .ok n => (readFeatures rest).map fun ns => n :: ns

/-- The numbers of the features that a list with commas names, in increasing order. -/
def readDisabled (s : Settings) : Except ParameterError (List Nat) :=
  match s.get? "letor:featureDisable" with
  | none => .ok []
  | some list =>
    let parts := ((Text.splitAll ',' list.toList).map Text.trimChars).filter fun part => part ≠ []
    (readFeatures (parts.map String.ofList)).map fun numbers =>
      (List.range (Feature.count + 1)).filter fun n => numbers.contains n

/-- The parameters of learning. -/
def readLearning (s : Settings) : Except ParameterError (LearningRun α) := do
  let trainingQueries ← s.required "letor:trainingQueryFile"
  let trainingJudgments ← s.required "letor:trainingQrelsFile"
  let trainingFeatures ← s.required "letor:trainingFeatureVectorsFile"
  let disabled ← readDisabled s
  let learner ← s.required "letor:svmRankLearnPath"
  let classifier ← s.required "letor:svmRankClassifyPath"
  let cost ← s.scalar "letor:svmRankParamC"
  let modelFile ← s.required "letor:svmRankModelFile"
  let testingFeatures ← s.required "letor:testingFeatureVectorsFile"
  let predictions ← s.required "letor:testingDocumentScores"
  return {
    trainingQueries, trainingJudgments, trainingFeatures
    pageRanks := s.get? "letor:pageRankFile"
    disabled, learner, classifier, cost, modelFile, testingFeatures, predictions }

/-- Whether queries are expanded. -/
def wantsFeedback (s : Settings) : Bool :=
  (s.get? "fb").any fun value => Text.lowerAscii value = "true"

/-- The parameters that settings give. -/
def ofSettings (s : Settings) : Except ParameterError (RunParameters α) := do
  let model ← readModel s
  let feedback ← if wantsFeedback s then some <$> readFeedback s else pure none
  let learning ←
    match model with
    | .letor _ _ => some <$> readLearning s
    | _ => pure none
  let index ← s.required "indexPath"
  let queries ← s.required "queryFilePath"
  let output ← s.required "trecEvalOutputPath"
  return { index, queries, output, model, feedback, learning }

/-- The parameters that a text sets. -/
def parse (text : String) : Except ParameterError (RunParameters α) := do
  ofSettings (← Settings.parse text)

end RunParameters

end RankedRetrieval
