/-!
# Lines

The lines of a file, as bytes and as text.

## Main Definitions

* `Text.byteLines` — the lines of a file
* `Text.lines` — the lines of a text
* `Text.decode?` — the text that bytes encode

## Design Notes

A line ends with a line feed, and a carriage return right before the line feed belongs to the
ending.  The last line needs no ending, and an ending at the very end opens no further line.
-/

namespace RankedRetrieval.Text

/-- The text that bytes encode in UTF-8. -/
def decode? (bytes : List UInt8) : Option String :=
  String.fromUTF8? ⟨bytes.toArray⟩

/-- The bytes of a text in UTF-8. -/
def encode (text : String) : List UInt8 :=
  text.toUTF8.data.toList

variable {α : Type} [DecidableEq α]

/-- A line, given backwards, without the carriage return of its ending. -/
def closeLine (carriageReturn : α) : List α → List α
  | [] => []
  | c :: earlier => if c = carriageReturn then earlier.reverse else (c :: earlier).reverse

/-- The lines after the characters of a line that has begun, the last one first. -/
def linesAfter (lineFeed carriageReturn : α) (line : List α) : List α → List (List α)
  | [] => if line.isEmpty then [] else [line.reverse]
  | c :: rest =>
    if c = lineFeed then
      closeLine carriageReturn line :: linesAfter lineFeed carriageReturn [] rest
    else linesAfter lineFeed carriageReturn (c :: line) rest

/-- The lines of a file. -/
def byteLines (bytes : List UInt8) : List (List UInt8) :=
  linesAfter 10 13 [] bytes

/-- The lines of a text. -/
def lines (text : String) : List String :=
  (linesAfter '\n' '\r' [] text.toList).map String.ofList

end RankedRetrieval.Text
