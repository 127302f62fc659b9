import RankedRetrieval.Unicode.Letter
import RankedRetrieval.Unicode.LowerCase
import RankedRetrieval.Unicode.NormalForm
import RankedRetrieval.Text.Stopword
import RankedRetrieval.Text.Stem

/-!
# Analysis of texts

Documents and queries are compared by the stems of their words.

## Main Definitions

* `Text.words` — the words of a normalized text
* `Text.Analysis` — the stems of a text with their positions
* `Text.analyze` — the analysis of a text
* `Text.queryTerms` — the stems of a text in order

## Design Notes

A text is brought into normalization form KC and then into lower case.  A word begins with a
letter or a number and goes on with letters, numbers, underscores and apostrophes.  Stop words
count as positions but have no stem.
-/

namespace RankedRetrieval.Text

/-- Whether a character can stand inside a word. -/
def isWordChar (c : Char) : Bool :=
  Unicode.isLetterOrNumber c || c = '_' || c = '\x27'

/-- The words of a text, read after the characters of a word that has begun, the last one
first. -/
def wordsAfter (word : List Char) : List Char → List (List Char)
  | [] => if word.isEmpty then [] else [word.reverse]
  | c :: rest =>
    if word.isEmpty then
      if Unicode.isLetterOrNumber c then wordsAfter [c] rest else wordsAfter [] rest
    else if isWordChar c then wordsAfter (c :: word) rest
    else word.reverse :: wordsAfter [] rest

/-- The words of a text. -/
def words (text : String) : List String :=
  (wordsAfter [] (Unicode.lowerCase (Unicode.normalize text.toList))).map String.ofList

/-- The stems of a text with the positions of their words. -/
structure Analysis where
  /-- The stems in order, each with its position among the words. -/
  terms : List (String × Nat)
  /-- The number of words, stop words included. -/
  length : Nat

/-- The stems of words that are numbered from a position on. -/
def stemsFrom (position : Nat) : List String → List (String × Nat)
  | [] => []
  | word :: rest =>
    if isStopword word then stemsFrom (position + 1) rest
    else (Stem.stem word, position) :: stemsFrom (position + 1) rest

/-- The analysis of a text. -/
def analyze (text : String) : Analysis where
  terms := stemsFrom 0 (words text)
  length := (words text).length

/-- The stems of a text in order: none for a stop word, several for a compound. -/
def queryTerms (text : String) : List String :=
  (analyze text).terms.map Prod.fst

end RankedRetrieval.Text
