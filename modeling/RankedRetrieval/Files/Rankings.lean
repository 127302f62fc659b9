import RankedRetrieval.Decimal.Pieces
import RankedRetrieval.Files.Content
import RankedRetrieval.Ranking.ScoreList
import RankedRetrieval.Table
import RankedRetrieval.Text.Blank

/-!
# Ranking files

The results of queries, one document per line.

## Main Definitions

* `RankingFile.text` — the lines of the results of a query
* `RankingFile.pieces` — the pieces in which the lines are written
* `RankingFile.read` — the rankings of a file

## Design Notes

A line has six columns: the number of the query, a constant, the document, its rank, its score
with twelve places, and the name of the run.  Readers ask for the first five only.
-/

namespace RankedRetrieval.RankingFile

variable {α : Type} [Numeral α]

/-- The line of a document at a rank. -/
def line (qid : String) (rank : Nat) (entry : ScoredDocument α) : String :=
  qid ++ " Q0 " ++ entry.externalId ++ " " ++ Nat.repr rank ++ " "
    ++ Numeral.fixed 12 entry.score ++ " fubar\n"

/-- The lines of documents that are ranked from a rank on. -/
def linesFrom (qid : String) (rank : Nat) : List (ScoredDocument α) → List String
  | [] => []
  | entry :: rest => line qid rank entry :: linesFrom qid (rank + 1) rest

/-- The pieces of the line of a document at a rank. -/
def linePieces (qid : String) (rank : Nat) (entry : ScoredDocument α) : List String :=
  [qid, " Q0 ", entry.externalId, " ", Nat.repr rank, " "]
    ++ Decimal.pieces (Numeral.fixed 12 entry.score) ++ [" fubar\n"]

/-- The pieces of the lines of documents that are ranked from a rank on. -/
def piecesFrom (qid : String) (rank : Nat) : List (ScoredDocument α) → List String
  | [] => []
  | entry :: rest => linePieces qid rank entry ++ piecesFrom qid (rank + 1) rest

/-- The pieces of the lines of the results of a query. -/
def pieces (qid : String) (results : ScoreList α) : List String :=
  piecesFrom qid 1 results.entries

/-- The lines of the results of a query; nothing when it has none. -/
def text (qid : String) (results : ScoreList α) : String :=
  String.join (linesFrom qid 1 results.entries)

@[simp]
theorem join_linePieces (qid : String) (rank : Nat) (entry : ScoredDocument α) :
    String.join (linePieces qid rank entry) = line qid rank entry := by
  simp [linePieces, line, String.join_append, String.append_assoc]

theorem join_piecesFrom (qid : String) (rank : Nat) (entries : List (ScoredDocument α)) :
    String.join (piecesFrom qid rank entries) = String.join (linesFrom qid rank entries) := by
  induction entries generalizing rank with
  | nil => rfl
  | cons entry rest ih => simp [piecesFrom, linesFrom, String.join_append, ih]

/-- The pieces make up the lines. -/
@[simp]
theorem join_pieces (qid : String) (results : ScoreList α) :
    String.join (pieces qid results) = text qid results :=
  join_piecesFrom qid 1 results.entries

/-- The query, the document and the score of a line. -/
def readLine (line : String) : Except LineFault (Option (String × String × α)) :=
  match Text.columns line with
  | [] => .ok none
  | qid :: _ :: externalId :: _ :: score :: _ =>
    match Numeral.read score with
    | .ok s => .ok (some (qid, externalId, s))
    | .error cause => .error (.badScore score cause)
  | _ => .error (.tooFewColumns 6)

/-- Entries by their key, in the order in which they stand. -/
def group {κ β : Type} [DecidableEq κ] (entries : List (κ × β)) : Table κ (List β) :=
  entries.foldl
    (fun t entry => t.adjust entry.1 fun earlier => earlier.getD [] ++ [entry.2]) ∅

/-- The rankings of a file by the numbers of their queries. -/
def read (bytes : List UInt8) : Except ContentError (Table String (List (String × α))) :=
  (Content.readBytes readLine bytes).map group

end RankedRetrieval.RankingFile
