import RankedRetrieval.Files.Content
import RankedRetrieval.Text.Blank

/-!
# Query files

## Main Definitions

* `QueryFile.read` — the queries of a file

## Design Notes

A line holds the number of a query, a colon and the text of the query.  Blank lines are skipped.
-/

namespace RankedRetrieval.QueryFile

/-- The query of a line. -/
def readLine (line : String) : Except LineFault (Option (String × String)) :=
  if Text.isBlankText line then .ok none
  else
    match Text.splitOnce? ':' line with
    | none => .error .missingColon
    | some (qid, text) => .ok (some (Text.trim qid, Text.trim text))

/-- The queries of a file with their numbers, in the order of the lines. -/
def read (bytes : List UInt8) : Except ContentError (List (String × String)) :=
  Content.readBytes readLine bytes

end RankedRetrieval.QueryFile
