import RankedRetrieval.Files.Rankings

/-!
# Judgment files

How relevant documents are to queries, as judges have said.

## Main Definitions

* `Judgment` — the relevance of a document
* `JudgmentFile.read` — the judgments of a file

## Design Notes

A line has four columns: the number of the query, a column without meaning, the document and its
relevance.
-/

namespace RankedRetrieval

/-- The relevance of a document to a query. -/
structure Judgment where
  /-- The name of the document outside the index. -/
  externalId : String
  /-- Its relevance. -/
  relevance : Int
  deriving DecidableEq

namespace JudgmentFile

/-- The query and the judgment of a line. -/
def readLine (line : String) : Except LineFault (Option (String × Judgment)) :=
  match Text.columns line with
  | [] => .ok none
  | qid :: _ :: externalId :: relevance :: _ =>
    match Decimal.readInt Decimal.greatestSigned relevance with
    | .ok n => .ok (some (qid, ⟨externalId, n⟩))
    | .error cause => .error (.badRelevance relevance cause)
  | _ => .error (.tooFewColumns 4)

/-- The judgments of a file by the numbers of their queries. -/
def read (bytes : List UInt8) : Except ContentError (Table String (List Judgment)) :=
  (Content.readBytes readLine bytes).map RankingFile.group

end JudgmentFile

end RankedRetrieval
