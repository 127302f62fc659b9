import RankedRetrieval.Decimal.Pieces
import RankedRetrieval.Features.Extraction
import RankedRetrieval.Files.Content

/-!
# Feature files

What a learning program reads: one document of one query per line.

## Main Definitions

* `FeatureRow` — a document of a query with its features
* `FeatureRow.text` — the line of a row
* `FeatureRow.pieces` — the pieces in which the line is written
* `FeatureFile.readIds` — the queries and documents of a file

## Design Notes

A line holds the relevance, the number of the query after `qid:`, the features that are present,
each after its number, and the document after a number sign.  When a line is read back, the
query is what stands after the first `qid:` that something follows, and the document is all that
stands after the first number sign with a space.
-/

namespace RankedRetrieval

/-- A document of a query with its features. -/
structure FeatureRow (α : Type) where
  /-- The number of the query. -/
  qid : String
  /-- The name of the document outside the index. -/
  externalId : String
  /-- The relevance of the document to the query. -/
  relevance : Int
  /-- The features. -/
  features : FeatureVector α

namespace FeatureRow

variable {α : Type} [Numeral α]

/-- The text of features that are numbered from a number on, without those that are missing or
disabled. -/
def entries (disabled : List Nat) (n : Nat) : FeatureVector α → List String
  | [] => []
  | none :: rest => entries disabled (n + 1) rest
  | some v :: rest =>
    if disabled.contains n then entries disabled (n + 1) rest
    else (" " ++ Nat.repr n ++ ":" ++ Numeral.text v) :: entries disabled (n + 1) rest

/-- The pieces of features that are numbered from a number on. -/
def entryPieces (disabled : List Nat) (n : Nat) : FeatureVector α → List String
  | [] => []
  | none :: rest => entryPieces disabled (n + 1) rest
  | some v :: rest =>
    if disabled.contains n then entryPieces disabled (n + 1) rest
    else
      [" ", Nat.repr n, ":"] ++ Decimal.pieces (Numeral.text v)
        ++ entryPieces disabled (n + 1) rest

/-- The pieces of the line of a row. -/
def pieces (disabled : List Nat) (row : FeatureRow α) : List String :=
  Decimal.integerPieces row.relevance ++ [" qid:", row.qid]
    ++ entryPieces disabled 1 row.features ++ [" # ", row.externalId, "\n"]

/-- The line of a row. -/
def text (disabled : List Nat) (row : FeatureRow α) : String :=
  row.relevance.repr ++ " qid:" ++ row.qid
    ++ String.join (entries disabled 1 row.features) ++ " # " ++ row.externalId ++ "\n"

theorem join_entryPieces (disabled : List Nat) (n : Nat) (features : FeatureVector α) :
    String.join (entryPieces disabled n features) = String.join (entries disabled n features) := by
  fun_induction entries disabled n features with
  | case1 => rfl
  | case2 n rest ih => simpa [entryPieces] using ih
  | case3 n v rest off ih => rw [entryPieces, if_pos off, ih]
  | case4 n v rest on ih =>
    rw [entryPieces, if_neg on, String.join_append, ih]
    simp [String.append_assoc]

/-- The pieces make up the line. -/
@[simp]
theorem join_pieces (disabled : List Nat) (row : FeatureRow α) :
    String.join (pieces disabled row) = text disabled row := by
  simp [pieces, text, String.join_append, String.append_assoc, join_entryPieces]

end FeatureRow

namespace FeatureFile

/-- The text without blanks that follows the first mark that such a text follows. -/
def wordAfter? (mark : List Char) : List Char → Option (List Char)
  | [] => none
  | c :: rest =>
    if mark.isPrefixOf (c :: rest) then
      let word := ((c :: rest).drop mark.length).takeWhile fun d => !Text.isBlank d
      if word.isEmpty then wordAfter? mark rest else some word
    else wordAfter? mark rest

/-- All that follows the first mark that something follows. -/
def restAfter? (mark : List Char) (cs : List Char) : Option (List Char) :=
  (Text.after? mark cs).filter fun rest => !rest.isEmpty

/-- The query and the document of a line. -/
def readLine (line : String) : Except LineFault (Option (String × String)) :=
  if Text.isBlankText line then .ok none
  else
    match wordAfter? "qid:".toList line.toList, restAfter? "# ".toList line.toList with
    | some qid, some doc =>
      .ok (some (String.ofList qid, String.ofList (Text.trimChars doc)))
    | _, _ => .error .noFeatureLine

/-- The queries and documents of a file, line by line. -/
def readIds (text : String) : Except ContentError (List (String × String)) :=
  Content.readText readLine text

end FeatureFile

end RankedRetrieval
