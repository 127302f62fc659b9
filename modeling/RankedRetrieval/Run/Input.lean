import RankedRetrieval.Features.Reranking
import RankedRetrieval.Files.FeatureRows
import RankedRetrieval.Files.Judgments
import RankedRetrieval.Files.PageRanks
import RankedRetrieval.Files.Predictions
import RankedRetrieval.Files.Queries
import RankedRetrieval.Run.Error
import RankedRetrieval.Run.Parameters

/-!
# Input of a run

The files that a run reads, by their paths in a file store.

## Main Definitions

* `Input.queries`, `Input.ranking`, `Input.judgments`, `Input.pageRanks` — files that are read
  line by line
* `Input.featureIds`, `Input.predictions`, `Input.parameters` — files that are read as a text
* `Input.reranked` — the rankings that the last two but one give
-/

namespace RankedRetrieval.Input

variable {α β : Type} [Numeral α]

/-- The contents of a file that is read line by line.  A directory can be opened like a file,
but its first line cannot be read. -/
def ofBytes (read : List UInt8 → Except ContentError β) (s : FileStore) (path : String) :
    Except RunError β :=
  match s.find path with
  | .error reason => .error (.cannotRead path reason)
  | .ok .directory => .error (.content path (.unreadable .isDirectory))
  | .ok (.file bytes) => (read bytes).mapError (.content path)

/-- The text of a file. -/
def text (s : FileStore) (path : String) : Except RunError String :=
  match s.read path with
  | .error reason => .error (.cannotRead path reason)
  | .ok bytes =>
    match Text.decode? bytes with
    | none => .error (.cannotRead path .undecodable)
    | some source => .ok source

/-- The contents of a file that is read as a text. -/
def ofText (read : String → Except ContentError β) (s : FileStore) (path : String) :
    Except RunError β :=
  match text s path with
  | .error e => .error e
  | .ok source => (read source).mapError (.content path)

/-- The queries of a file with their numbers. -/
def queries (s : FileStore) (path : String) : Except RunError (List (String × String)) :=
  ofBytes QueryFile.read s path

/-- The rankings of a file by the numbers of their queries. -/
def ranking (s : FileStore) (path : String) :
    Except RunError (Table String (List (String × α))) :=
  ofBytes RankingFile.read s path

/-- The judgments of a file by the numbers of their queries. -/
def judgments (s : FileStore) (path : String) :
    Except RunError (Table String (List Judgment)) :=
  ofBytes JudgmentFile.read s path

/-- The page ranks of a file by document. -/
def pageRanks (s : FileStore) (path : String) : Except RunError (Table String α) :=
  ofBytes PageRankFile.read s path

/-- The queries and documents of the lines of a feature file. -/
def featureIds (s : FileStore) (path : String) : Except RunError (List (String × String)) :=
  ofText FeatureFile.readIds s path

/-- The predicted scores of a file. -/
def predictions (s : FileStore) (path : String) : Except RunError (List α) :=
  ofText PredictionFile.read s path

variable [Scalar α]

/-- The parameters that a file sets. -/
def parameters (s : FileStore) (path : String) : Except RunError (RunParameters α) :=
  match text s path with
  | .error e => .error e
  | .ok source => (RunParameters.parse source).mapError .parameter

omit [Numeral α] in
/-- The rankings that one predicted score for each feature line gives. -/
def reranked (index : Index) (ids : List (String × String)) (scores : List α) :
    Except RunError (List (String × ScoreList α)) :=
  match Reranking.rankings? index ids scores with
  | some rankings => .ok rankings
  | none => .error (.unpaired ids.length scores.length)

end RankedRetrieval.Input
