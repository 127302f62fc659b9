import RankedRetrieval.Files.Content
import RankedRetrieval.Scalar
import RankedRetrieval.Text.Blank

/-!
# Prediction files

The scores that a learning program predicts, one per line.

## Main Definitions

* `PredictionFile.read` — the scores of a file
-/

namespace RankedRetrieval.PredictionFile

variable {α : Type} [Numeral α]

/-- The scores of lines; blank lines are skipped. -/
def readLines : List String → Except ContentError (List α)
  | [] => .ok []
  | line :: rest =>
    if Text.isBlankText line then readLines rest
    else
      match Numeral.read (Text.trim line) with
      | .ok score => (readLines rest).map fun scores => score :: scores
      | .error cause => .error (.badPrediction line cause)

/-- The scores of a file. -/
def read (text : String) : Except ContentError (List α) :=
  readLines (Text.lines text)

end RankedRetrieval.PredictionFile
