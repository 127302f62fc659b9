import RankedRetrieval.Files.Content
import RankedRetrieval.Scalar
import RankedRetrieval.Table
import RankedRetrieval.Text.Blank

/-!
# Page-rank files

## Main Definitions

* `PageRankFile.read` — the page ranks of a file

## Design Notes

A line holds a document and its page rank.  Lines without a number in the second column are
skipped, and of two lines for one document the later one counts.
-/

namespace RankedRetrieval.PageRankFile

variable {α : Type} [Numeral α]

/-- The document and the page rank of a line. -/
def readLine (line : String) : Except LineFault (Option (String × α)) :=
  match Text.columns line with
  | externalId :: pageRank :: _ =>
    .ok ((Numeral.read pageRank).toOption.map fun p => (externalId, p))
  | _ => .ok none

/-- The page ranks of a file by document. -/
def read (bytes : List UInt8) : Except ContentError (Table String α) :=
  (Content.readBytes readLine bytes).map Table.ofList

end RankedRetrieval.PageRankFile
