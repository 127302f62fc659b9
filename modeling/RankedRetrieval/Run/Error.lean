import RankedRetrieval.Files.Content
import RankedRetrieval.Files.Error
import RankedRetrieval.Query.Error
import RankedRetrieval.Run.Settings
import RankedRetrieval.Snapshot.Storage

/-!
# Errors of a run

## Main Definitions

* `RunError` — why a run ends early
* `RunError.message` — the wording
-/

namespace RankedRetrieval

/-- Why a run ends early. -/
inductive RunError where
  /-- A file cannot be read. -/
  | cannotRead (path : String) (reason : FileError)
  /-- A file cannot be created. -/
  | cannotCreate (path : String) (reason : FileError)
  /-- What has been written to a file cannot be kept. -/
  | cannotWrite (reason : FileError)
  /-- The contents of a file are not of their form. -/
  | content (path : String) (error : ContentError)
  /-- The parameters are at fault. -/
  | parameter (error : ParameterError)
  /-- The index cannot be loaded. -/
  | snapshot (error : SnapshotError)
  /-- A query, or the program that ranks, is at fault. -/
  | query (error : QueryError)
  /-- There is not one prediction for each feature line. -/
  | unpaired (lines predictions : Nat)
  deriving DecidableEq

/-- The wording of an error. -/
def RunError.message : RunError → String
  | cannotRead path reason => "can't read " ++ path ++ ": " ++ reason.message
  | cannotCreate path reason => "can't create " ++ path ++ ": " ++ reason.message
  | cannotWrite reason => reason.message
  | content path error => error.message path
  | parameter error => error.message
  | snapshot error => error.message
  | query error => error.message
  | unpaired lines predictions =>
    Nat.repr lines ++ " feature lines but " ++ Nat.repr predictions ++ " predictions"

end RankedRetrieval
