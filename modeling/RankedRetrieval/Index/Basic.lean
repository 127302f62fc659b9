import RankedRetrieval.Index.Document
import RankedRetrieval.Index.Posting
import RankedRetrieval.Table
import RankedRetrieval.Text.Analysis

/-!
# The index

Documents are analysed field by field; the index keeps the stems of each document and, for each
field, the postings of each stem.

## Main Definitions

* `Index` — an index over documents
* `Index.add` — an index with one more document
* `Index.invertedList` — the postings of a stem in a field
* `Index.termVector?` — the stems of one field of one document, with their statistics

## Design Notes

The stems of a field are listed once each in the order of their first occurrence, and every
position holds the number of its stem in that list, or nothing where a stop word stood.  A
field whose text holds no word is not recorded at all.
-/

namespace RankedRetrieval

/-- The analysed text of one field of one document. -/
structure FieldTokens where
  /-- The distinct stems, in the order of their first occurrence. -/
  stems : List String
  /-- For every position the number of its stem; `none` where a stop word stood. -/
  slots : List (Option Nat)
  deriving DecidableEq

/-- A document as the index keeps it. -/
structure StoredDocument where
  /-- The name of the document outside the index. -/
  externalId : String
  /-- The attributes. -/
  attributes : Table String String
  /-- The analysed fields. -/
  fields : Table String FieldTokens
  deriving DecidableEq

/-- What the index knows of one field. -/
structure FieldIndex where
  /-- The postings of each stem. -/
  postings : Table String (List Posting)
  /-- The number of documents that have the field. -/
  docCount : Nat
  /-- The number of words of the field in all documents. -/
  sumLengths : Nat
  deriving DecidableEq

/-- A field that no document has. -/
def FieldIndex.empty : FieldIndex := ⟨∅, 0, 0⟩

/-- An index over documents. -/
structure Index where
  /-- The documents by number. -/
  docs : Array StoredDocument
  /-- The number of the last document with a name. -/
  ids : Table String DocId
  /-- The fields. -/
  fields : Table String FieldIndex
  deriving DecidableEq

/-- The frequencies of a stem. -/
structure StemStatistics where
  /-- The stem. -/
  stem : String
  /-- Its occurrences in the field of the document. -/
  freq : Nat
  /-- Its occurrences in the field of all documents. -/
  ctf : Nat
  /-- The documents that hold it in the field. -/
  df : Nat

/-- One field of one document. -/
structure TermVector where
  /-- The stems with their frequencies. -/
  stems : List StemStatistics
  /-- For every position the number of its stem. -/
  positions : List (Option Nat)

namespace FieldTokens

/-- The distinct elements of a list, in the order of their first occurrence. -/
def distinct : List String → List String
  | [] => []
  | s :: rest => s :: (distinct rest).filter (· ≠ s)

/-- The stem at a position. -/
def stemAt? (terms : List (String × Nat)) (position : Nat) : Option String :=
  (terms.find? fun term => term.2 = position).map Prod.fst

/-- The tokens of an analysed text. -/
def ofAnalysis (a : Text.Analysis) : FieldTokens :=
  let stems := distinct (a.terms.map Prod.fst)
  { stems
    slots := (List.range a.length).map fun position =>
      (stemAt? a.terms position).bind fun stem => stems.idxOf? stem }

/-- The positions of a stem. -/
def positionsOf (a : Text.Analysis) (stem : String) : List Nat :=
  (a.terms.filter fun term => term.1 = stem).map Prod.snd

end FieldTokens

namespace FieldIndex

/-- A field with a posting of each of some stems. -/
def addPostings (f : FieldIndex) (a : Text.Analysis) (doc : DocId) (stems : List String) :
    Table String (List Posting) :=
  stems.foldl
    (fun postings stem =>
      postings.adjust stem fun earlier =>
        earlier.getD [] ++ [⟨doc, FieldTokens.positionsOf a stem⟩])
    f.postings

/-- A field with one more document. -/
def addDocument (f : FieldIndex) (doc : DocId) (a : Text.Analysis) : FieldIndex where
  postings := f.addPostings a doc (FieldTokens.ofAnalysis a).stems
  docCount := f.docCount + 1
  sumLengths := f.sumLengths + a.length

end FieldIndex

namespace Index

/-- The index without documents. -/
def empty : Index := ⟨#[], ∅, ∅⟩

/-- The analyses of the fields of a document, without the fields that hold no word. -/
def analyses (d : Document) : List (String × Text.Analysis) :=
  (d.fields.map fun entry => (entry.1, Text.analyze entry.2)).filter
    fun entry => entry.2.length ≠ 0

/-- A document as the index keeps it. -/
def store (d : Document) : StoredDocument where
  externalId := d.externalId
  attributes := Table.ofList d.attributes
  fields := Table.ofList ((analyses d).map fun entry => (entry.1, FieldTokens.ofAnalysis entry.2))

/-- An index with one more document. -/
def add (index : Index) (d : Document) : Index where
  docs := index.docs.push (store d)
  ids := index.ids.insert d.externalId index.docs.size
  fields :=
    (analyses d).foldl
      (fun fields entry =>
        fields.adjust entry.1 fun earlier =>
          (earlier.getD FieldIndex.empty).addDocument index.docs.size entry.2)
      index.fields

/-- The index over some documents, added in order. -/
def ofDocuments (docs : List Document) : Index :=
  docs.foldl add empty

/-! ### Lookups -/

/-- The number of documents. -/
def numDocs (index : Index) : Nat := index.docs.size

/-- The number of documents that have a field. -/
def docCount (index : Index) (field : String) : Nat :=
  ((index.fields.get? field).map FieldIndex.docCount).getD 0

/-- The number of words of a field in all documents. -/
def sumFieldLengths (index : Index) (field : String) : Nat :=
  ((index.fields.get? field).map FieldIndex.sumLengths).getD 0

/-- The analysed text of a field of a document. -/
def tokens? (index : Index) (field : String) (doc : DocId) : Option FieldTokens :=
  index.docs[doc]?.bind fun d => d.fields.get? field

/-- The number of words of a field of a document. -/
def fieldLength (index : Index) (field : String) (doc : DocId) : Nat :=
  ((index.tokens? field doc).map fun tokens => tokens.slots.length).getD 0

/-- The postings of a stem in a field. -/
def postings (index : Index) (stem field : String) : List Posting :=
  ((index.fields.get? field).bind fun f => f.postings.get? stem).getD []

/-- The inverted list of a stem in a field. -/
def invertedList (index : Index) (stem field : String) : InvertedList :=
  ⟨field, index.postings stem field⟩

/-- The number of documents that hold a stem in a field. -/
def termDocFreq (index : Index) (stem field : String) : Nat :=
  (index.invertedList stem field).df

/-- The number of occurrences of a stem in a field. -/
def termCollectionFreq (index : Index) (stem field : String) : Nat :=
  (index.invertedList stem field).ctf

/-- The stems of a field of a document with their frequencies; the first argument is the number
of the first stem. -/
def statisticsFrom (index : Index) (field : String) (slots : List (Option Nat)) :
    Nat → List String → List StemStatistics
  | _, [] => []
  | slot, stem :: rest =>
    { stem
      freq := slots.count (some slot)
      ctf := index.termCollectionFreq stem field
      df := index.termDocFreq stem field } :: statisticsFrom index field slots (slot + 1) rest

/-- One field of one document; nothing when the document has no words in the field. -/
def termVector? (index : Index) (doc : DocId) (field : String) : Option TermVector :=
  (index.tokens? field doc).map fun tokens =>
    { stems := index.statisticsFrom field tokens.slots 0 tokens.stems, positions := tokens.slots }

/-- The number of the last document with a name. -/
def internalId? (index : Index) (externalId : String) : Option DocId :=
  index.ids.get? externalId

/-- The name of a document. -/
def externalId? (index : Index) (doc : DocId) : Option String :=
  index.docs[doc]?.map StoredDocument.externalId

/-- An attribute of a document. -/
def storedAttribute? (index : Index) (name : String) (doc : DocId) : Option String :=
  index.docs[doc]?.bind fun d => d.attributes.get? name

end Index

namespace TermVector

/-- Whether a field holds stop words only. -/
def isEmpty (v : TermVector) : Bool := v.stems.isEmpty

/-- The number of words, stop words included. -/
def length (v : TermVector) : Nat := v.positions.length

/-- The statistics of a stem. -/
def stem? (v : TermVector) (stem : String) : Option StemStatistics :=
  v.stems.find? fun s => s.stem = stem

/-- The number of stop words. -/
def stopwordCount (v : TermVector) : Nat := v.positions.count none

end TermVector

end RankedRetrieval
