import RankedRetrieval.Index.Posting
import RankedRetrieval.Scalar

/-!
# Score lists

## Main Definitions

* `ScoreList` — the documents of a result with their scores
* `ScoreList.sort` — the best documents first
* `ScoreList.rank` — the documents that are reported

## Design Notes

A better score comes first, and of two equal scores the one whose document has the lesser name
outside the index.  Scores are compared in a total order, so that what is not a number has a
place too.
-/

namespace RankedRetrieval

/-- A document with its score. -/
structure ScoredDocument (α : Type) where
  /-- The document. -/
  doc : DocId
  /-- Its name outside the index. -/
  externalId : String
  /-- Its score. -/
  score : α

/-- Scored documents, in the order of evaluation until they are sorted. -/
structure ScoreList (α : Type) where
  /-- The entries. -/
  entries : List (ScoredDocument α)

namespace ScoreList

variable {α : Type}

/-- The number of documents that are reported. -/
def maxResults : Nat := 100

/-- The list without entries. -/
def empty : ScoreList α := ⟨[]⟩

/-- A list with one more entry. -/
def add (l : ScoreList α) (doc : DocId) (externalId : String) (score : α) : ScoreList α :=
  ⟨l.entries ++ [⟨doc, externalId, score⟩]⟩

/-- The number of entries. -/
def length (l : ScoreList α) : Nat := l.entries.length

/-- Whether there is no entry. -/
def isEmpty (l : ScoreList α) : Bool := l.entries.isEmpty

/-- The first entries. -/
def truncate (l : ScoreList α) (n : Nat) : ScoreList α := ⟨l.entries.take n⟩

/-- The documents and scores of the first entries. -/
def top (l : ScoreList α) (n : Nat) : List (DocId × α) :=
  (l.entries.take n).map fun e => (e.doc, e.score)

variable [Scalar α]

/-- Whether an entry may stand before another one. -/
def precedes (a b : ScoredDocument α) : Bool :=
  Scalar.ranksBelow b.score a.score
    && (!Scalar.ranksBelow a.score b.score || a.externalId ≤ b.externalId)

/-- The entries with the best ones first. -/
def sort (l : ScoreList α) : ScoreList α := ⟨l.entries.mergeSort precedes⟩

/-- The entries that are reported, with the best ones first. -/
def rank (l : ScoreList α) : ScoreList α := l.sort.truncate maxResults

end ScoreList

end RankedRetrieval
