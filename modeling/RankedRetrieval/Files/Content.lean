import RankedRetrieval.Decimal.Reading
import RankedRetrieval.Files.Error
import RankedRetrieval.Text.Line

/-!
# Contents of files

Files that hold one item per line are read line by line.

## Main Definitions

* `LineFault` — what can be wrong with a line
* `ContentError` — what can be wrong with the contents of a file
* `Content.readLines` — the items of lines

## Design Notes

Lines are numbered from one, and skipped lines count.  A file that is read as bytes is decoded
line by line, so a fault in an early line is reported even when a later line is no text.
-/

namespace RankedRetrieval

/-- What can be wrong with a line. -/
inductive LineFault where
  /-- A query has no colon after its number. -/
  | missingColon
  /-- A line has too few columns. -/
  | tooFewColumns (expected : Nat)
  /-- A score is no number. -/
  | badScore (text : String) (cause : NumeralError)
  /-- A relevance is no integer. -/
  | badRelevance (text : String) (cause : NumeralError)
  /-- A line names no query or no document. -/
  | noFeatureLine
  deriving DecidableEq

/-- The wording of a fault. -/
def LineFault.message : LineFault → String
  | missingColon => "missing ':' in query line"
  | tooFewColumns expected => "expected " ++ Nat.repr expected ++ " columns"
  | badScore text cause => "bad score '" ++ text ++ "': " ++ cause.message
  | badRelevance text cause => "bad relevance '" ++ text ++ "': " ++ cause.message
  | noFeatureLine => "not a feature line"

/-- What can be wrong with the contents of a file. -/
inductive ContentError where
  /-- A line cannot be read. -/
  | unreadable (reason : FileError)
  /-- A line has a fault. -/
  | line (number : Nat) (fault : LineFault)
  /-- A prediction is no number. -/
  | badPrediction (text : String) (cause : NumeralError)
  deriving DecidableEq

/-- The wording of an error in the file at a path. -/
def ContentError.message (path : String) : ContentError → String
  | unreadable reason => reason.message
  | line number fault => path ++ ":" ++ Nat.repr number ++ ": " ++ fault.message
  | badPrediction text cause => "bad prediction '" ++ text ++ "': " ++ cause.message

namespace Content

variable {β : Type}

/-- The items of lines that are numbered from a number on; `none` is a line that is no text, and
a line may hold no item. -/
def readLines (read : String → Except LineFault (Option β)) (number : Nat) :
    List (Option String) → Except ContentError (List β)
  | [] => .ok []
  | none :: _ => .error (.unreadable .undecodable)
  | some line :: rest =>
    match read line with
    | .error fault => .error (.line number fault)
    | .ok item? => (readLines read (number + 1) rest).map fun items => item?.toList ++ items

/-- The items of a file. -/
def readBytes (read : String → Except LineFault (Option β)) (bytes : List UInt8) :
    Except ContentError (List β) :=
  readLines read 1 ((Text.byteLines bytes).map Text.decode?)

/-- The items of a text. -/
def readText (read : String → Except LineFault (Option β)) (text : String) :
    Except ContentError (List β) :=
  readLines read 1 ((Text.lines text).map some)

end Content

end RankedRetrieval
