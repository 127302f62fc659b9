import RankedRetrieval.Proofs.Snapshot.Codecs
import RankedRetrieval.Snapshot.Layout

/-!
# The layout of an index is faithful

## Main Definitions

* `Index.Storable` — every number of an index has a place of sufficient width

## Main Results

* `Layout.faithful_documents`, `Layout.faithful_fields` — both parts of an index are read back

## Design Notes

A part of an index is storable when each of its own parts is, so the predicates follow the
definitions of the layout, and every law is the law of a compound codec applied to the laws of
its components.
-/

namespace RankedRetrieval

open Codec

/-! ### Storable values -/

/-- The analysed text of a field is storable. -/
def FieldTokens.Storable (t : FieldTokens) : Prop :=
  ListFits TextFits t.stems ∧ ListFits (fun slot? => ∀ slot ∈ slot?, slot < wordBound) t.slots

/-- A document is storable. -/
def StoredDocument.Storable (d : StoredDocument) : Prop :=
  TextFits d.externalId ∧ TableFits TextFits TextFits d.attributes ∧
    TableFits TextFits FieldTokens.Storable d.fields

/-- The occurrences of a term in a document are storable. -/
def Posting.Storable (p : Posting) : Prop :=
  p.doc < wordBound ∧ ListFits (· < wordBound) p.positions

/-- What the index knows of a field is storable. -/
def FieldIndex.Storable (f : FieldIndex) : Prop :=
  TableFits TextFits (ListFits Posting.Storable) f.postings ∧
    f.docCount < sizeBound ∧ f.sumLengths < sizeBound

/-- Documents with their numbers by name are storable. -/
def Layout.DocumentsStorable (parts : List StoredDocument × Table String DocId) : Prop :=
  ListFits StoredDocument.Storable parts.1 ∧ TableFits TextFits (· < wordBound) parts.2

/-- An index is storable: its tables have distinct keys, and its numbers have the widths of
identifiers and of lengths. -/
structure Index.Storable (index : Index) : Prop where
  /-- The documents and their names. -/
  documents : Layout.DocumentsStorable (index.docs.toList, index.ids)
  /-- The fields. -/
  fields : TableFits TextFits FieldIndex.Storable index.fields

instance : DecidablePred FieldTokens.Storable := fun t =>
  inferInstanceAs (Decidable (ListFits TextFits t.stems ∧
    ListFits (fun slot? => ∀ slot ∈ slot?, slot < wordBound) t.slots))

instance : DecidablePred StoredDocument.Storable := fun d =>
  inferInstanceAs (Decidable (TextFits d.externalId ∧ TableFits TextFits TextFits d.attributes ∧
    TableFits TextFits FieldTokens.Storable d.fields))

instance : DecidablePred Posting.Storable := fun p =>
  inferInstanceAs (Decidable (p.doc < wordBound ∧ ListFits (· < wordBound) p.positions))

instance : DecidablePred FieldIndex.Storable := fun f =>
  inferInstanceAs (Decidable (TableFits TextFits (ListFits Posting.Storable) f.postings ∧
    f.docCount < sizeBound ∧ f.sumLengths < sizeBound))

instance : DecidablePred Layout.DocumentsStorable := fun parts =>
  inferInstanceAs (Decidable (ListFits StoredDocument.Storable parts.1 ∧
    TableFits TextFits (· < wordBound) parts.2))

namespace Layout

/-! ### Laws of the layout -/

theorem faithful_fieldTokens : Faithful fieldTokens FieldTokens.Storable :=
  faithful_via (faithful_pair (faithful_list faithful_text)
    (faithful_list (faithful_option faithful_word))) fun _ storable => ⟨rfl, storable⟩

theorem faithful_storedDocument : Faithful storedDocument StoredDocument.Storable :=
  faithful_via (faithful_pair faithful_text
    (faithful_pair (faithful_table faithful_text faithful_text)
      (faithful_table faithful_text faithful_fieldTokens))) fun _ storable => ⟨rfl, storable⟩

theorem faithful_posting : Faithful posting Posting.Storable :=
  faithful_via (faithful_pair faithful_word (faithful_list faithful_word))
    fun _ storable => ⟨rfl, storable⟩

theorem faithful_fieldIndex : Faithful fieldIndex FieldIndex.Storable :=
  faithful_via (faithful_pair (faithful_table faithful_text (faithful_list faithful_posting))
    (faithful_pair faithful_size faithful_size)) fun _ storable => ⟨rfl, storable⟩

/-- The documents of an index and their names are read back. -/
theorem faithful_documents : Faithful documents DocumentsStorable :=
  faithful_pair (faithful_list faithful_storedDocument) (faithful_table faithful_text faithful_word)

/-- The fields of an index are read back. -/
theorem faithful_fields : Faithful fields (TableFits TextFits FieldIndex.Storable) :=
  faithful_table faithful_text faithful_fieldIndex

end Layout

end RankedRetrieval
