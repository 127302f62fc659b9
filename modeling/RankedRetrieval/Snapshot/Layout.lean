import RankedRetrieval.Index.Basic
import RankedRetrieval.Snapshot.Codec

/-!
# Layout of an index

## Main Definitions

* `Layout.documents` — the documents of an index with their numbers by name
* `Layout.fields` — the fields of an index

## Design Notes

The parts of every value follow each other in the order of its definition.
-/

namespace RankedRetrieval.Layout

open Codec

/-- The analysed text of a field. -/
def fieldTokens : Codec FieldTokens :=
  via (fun p => ⟨p.1, p.2⟩) (fun t => (t.stems, t.slots)) (pair (list text) (list (option word)))

/-- A document. -/
def storedDocument : Codec StoredDocument :=
  via (fun p => ⟨p.1, p.2.1, p.2.2⟩) (fun d => (d.externalId, d.attributes, d.fields))
    (pair text (pair (table text text) (table text fieldTokens)))

/-- The documents of an index with their numbers by name. -/
def documents : Codec (List StoredDocument × Table String DocId) :=
  pair (list storedDocument) (table text word)

/-- The occurrences of a term in a document. -/
def posting : Codec Posting :=
  via (fun p => ⟨p.1, p.2⟩) (fun p => (p.doc, p.positions)) (pair word (list word))

/-- What the index knows of a field. -/
def fieldIndex : Codec FieldIndex :=
  via (fun p => ⟨p.1, p.2.1, p.2.2⟩) (fun f => (f.postings, f.docCount, f.sumLengths))
    (pair (table text (list posting)) (pair size size))

/-- The fields of an index. -/
def fields : Codec (Table String FieldIndex) :=
  table text fieldIndex

end RankedRetrieval.Layout
