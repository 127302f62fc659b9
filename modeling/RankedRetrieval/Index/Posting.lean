/-!
# Postings

## Main Definitions

* `Posting` — the occurrences of a term in a document
* `InvertedList` — the postings of a term or of a positional operator

## Design Notes

The frequencies of an inverted list are computed from its postings, so they cannot disagree
with them.  Counting the occurrences while a list is filled, posting by posting, yields the same
number (`Filling.foldlM_append?`).
-/

namespace RankedRetrieval

/-- The number of a document.  Documents are numbered from zero in the order of indexing. -/
abbrev DocId := Nat

/-- The occurrences of a term in one document. -/
structure Posting where
  /-- The document. -/
  doc : DocId
  /-- The positions of the occurrences among the words of the field. -/
  positions : List Nat
  deriving DecidableEq

/-- The number of occurrences. -/
def Posting.tf (p : Posting) : Nat := p.positions.length

/-- Postings in one field, in increasing order of documents. -/
structure InvertedList where
  /-- The field. -/
  field : String
  /-- The postings. -/
  postings : List Posting
  deriving DecidableEq

namespace InvertedList

/-- The number of documents. -/
def df (l : InvertedList) : Nat := l.postings.length

/-- The number of occurrences in all documents. -/
def ctf (l : InvertedList) : Nat :=
  l.postings.foldr (fun p n => p.tf + n) 0

end InvertedList

end RankedRetrieval
