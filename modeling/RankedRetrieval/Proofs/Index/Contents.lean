import Mathlib.Algebra.Order.Ring.Nat
import Mathlib.Data.List.Induction
import Mathlib.Data.List.Nodup
import RankedRetrieval.Index.Basic
import RankedRetrieval.Proofs.Positional.Movement

/-!
# Contents of an index

What an index holds after documents have been added to it, said without the tables in which it
is kept: the postings of a stem are those that the documents bring, one document after the
other.

## Main Definitions

* `Document.analysesOf` — the analyses of the texts of one field
* `Document.postingsOf` — the postings of a stem that a document brings
* `Index.postings_ofDocuments` — the postings of a stem after all additions

## Design Notes

Nothing is asked of the documents here.  A document that names a field twice has two analyses
for it, and brings two postings of a stem that both of them hold.
-/

namespace RankedRetrieval

/-! ### Tables that are written one key after the other -/

namespace Table

variable {κ β γ : Type} [DecidableEq κ]

/-- After a sequence of changes, the value of a key has gone through the changes of that key. -/
theorem get?_foldl_adjust (keyOf : γ → κ) (make : γ → Option β → β) (xs : List γ)
    (t : Table κ β) (key : κ) :
    (xs.foldl (fun t x => t.adjust (keyOf x) (make x)) t).get? key =
      (xs.filter fun x => keyOf x = key).foldl (fun value? x => some (make x value?))
        (t.get? key) := by
  induction xs generalizing t with
  | nil => rfl
  | cons x xs ih =>
    rw [List.foldl_cons, ih, get?_adjust]
    by_cases same : keyOf x = key
    · rw [List.filter_cons_of_pos (by simpa using same), List.foldl_cons, if_pos same, same]
    · rw [List.filter_cons_of_neg (by simpa using same), if_neg same]

/-- The keys of a table are those that have a value. -/
theorem mem_keys_iff {t : Table κ β} {key : κ} : key ∈ t.keys ↔ t.get? key ≠ none := by
  obtain ⟨entries⟩ := t
  rw [keys, get?]
  induction entries with
  | nil => simp [find?]
  | cons entry entries ih =>
    obtain ⟨k, b⟩ := entry
    by_cases same : k = key
    · simp [find?, same]
    · simpa [find?, same, Ne.symm same] using ih

/-- Of the entries that are written for a key the last one counts. -/
theorem get?_ofList (entries : List (κ × β)) (key : κ) :
    (ofList entries).get? key =
      ((entries.filter fun entry => entry.1 = key).map Prod.snd).getLast? := by
  rw [ofList]
  simp only [insert]
  rw [get?_foldl_adjust Prod.fst (fun entry _ => entry.2), get?_empty]
  induction entries.filter (fun entry => entry.1 = key) using List.reverseRecOn with
  | nil => rfl
  | append_singleton entries entry _ => simp

end Table

/-! ### Distinct stems -/

namespace FieldTokens

@[simp]
theorem mem_distinct {s : String} {xs : List String} : s ∈ distinct xs ↔ s ∈ xs := by
  induction xs with
  | nil => simp [distinct]
  | cons x xs ih =>
    by_cases same : s = x <;> simp [distinct, same, ih]

theorem nodup_distinct (xs : List String) : (distinct xs).Nodup := by
  induction xs with
  | nil => exact List.nodup_nil
  | cons x xs ih => exact List.nodup_cons.2 ⟨by simp, ih.filter _⟩

/-- Of distinct elements exactly one is a given one that is among them. -/
theorem filter_eq_of_nodup {xs : List String} (nodup : xs.Nodup) (s : String) :
    (xs.filter fun x => x = s) = if s ∈ xs then [s] else [] := by
  induction xs with
  | nil => rfl
  | cons x xs ih =>
    obtain ⟨fresh, nodup⟩ := List.nodup_cons.1 nodup
    by_cases same : x = s
    · subst same
      simp [ih nodup, fresh]
    · simp [ih nodup, same, Ne.symm same]

theorem nodup_stems (a : Text.Analysis) : (ofAnalysis a).stems.Nodup :=
  nodup_distinct _

theorem mem_stems {a : Text.Analysis} {stem : String} :
    stem ∈ (ofAnalysis a).stems ↔ ∃ position, (stem, position) ∈ a.terms := by
  simp [ofAnalysis]

end FieldTokens

/-! ### What one document brings -/

namespace Document

/-- The analyses of the texts that a document has for a field. -/
def analysesOf (d : Document) (field : String) : List Text.Analysis :=
  ((Index.analyses d).filter fun entry => entry.1 = field).map Prod.snd

/-- The postings of a stem that a document brings. -/
def postingsOf (d : Document) (doc : DocId) (stem field : String) : List Posting :=
  ((d.analysesOf field).filter fun a => stem ∈ (FieldTokens.ofAnalysis a).stems).map fun a =>
    ⟨doc, FieldTokens.positionsOf a stem⟩

theorem doc_of_mem_postingsOf {d : Document} {doc : DocId} {stem field : String} {p : Posting}
    (member : p ∈ d.postingsOf doc stem field) : p.doc = doc := by
  obtain ⟨a, -, rfl⟩ := List.mem_map.1 member
  rfl

end Document

namespace FieldIndex

/-- The postings of a stem, if the field is there at all. -/
def postingsOf (stem : String) (f? : Option FieldIndex) : List Posting :=
  (f?.bind fun f => f.postings.get? stem).getD []

/-- One more document adds its posting of a stem at the end. -/
theorem postingsOf_addDocument (stem : String) (f? : Option FieldIndex) (doc : DocId)
    (a : Text.Analysis) :
    postingsOf stem (some ((f?.getD empty).addDocument doc a)) =
      postingsOf stem f? ++
        if stem ∈ (FieldTokens.ofAnalysis a).stems then
          [⟨doc, FieldTokens.positionsOf a stem⟩] else [] := by
  have before : ((f?.getD empty).postings.get? stem).getD [] = postingsOf stem f? := by
    cases f? with
    | none => rfl
    | some f => rfl
  have written := Table.get?_foldl_adjust id
    (fun other earlier => earlier.getD [] ++ [⟨doc, FieldTokens.positionsOf a other⟩])
    (FieldTokens.ofAnalysis a).stems (f?.getD empty).postings stem
  simp only [id_eq, FieldTokens.filter_eq_of_nodup (FieldTokens.nodup_stems a)] at written
  rw [← before]
  simp only [postingsOf, Option.bind_some, addDocument, addPostings, written]
  split <;> simp

end FieldIndex

namespace Index

/-- What a document does to the record of one field. -/
theorem get?_fields_add (index : Index) (d : Document) (field : String) :
    (index.add d).fields.get? field =
      (d.analysesOf field).foldl
        (fun f? a => some ((f?.getD FieldIndex.empty).addDocument index.docs.size a))
        (index.fields.get? field) := by
  rw [add, Document.analysesOf, List.foldl_map]
  exact Table.get?_foldl_adjust Prod.fst
    (fun entry earlier =>
      (earlier.getD FieldIndex.empty).addDocument index.docs.size entry.2) _ _ field

theorem postings_add (index : Index) (d : Document) (stem field : String) :
    (index.add d).postings stem field =
      index.postings stem field ++ d.postingsOf index.docs.size stem field := by
  have fold (f? : Option FieldIndex) (as : List Text.Analysis) :
      FieldIndex.postingsOf stem
          (as.foldl (fun f? a =>
            some ((f?.getD FieldIndex.empty).addDocument index.docs.size a)) f?) =
        FieldIndex.postingsOf stem f? ++
          (as.filter fun a => stem ∈ (FieldTokens.ofAnalysis a).stems).map fun a =>
            ⟨index.docs.size, FieldTokens.positionsOf a stem⟩ := by
    induction as generalizing f? with
    | nil => simp
    | cons a as ih =>
      rw [List.foldl_cons, ih, FieldIndex.postingsOf_addDocument]
      by_cases holds : stem ∈ (FieldTokens.ofAnalysis a).stems <;> simp [holds]
  have unfolded (index : Index) :
      index.postings stem field = FieldIndex.postingsOf stem (index.fields.get? field) := rfl
  rw [unfolded, unfolded, get?_fields_add, fold, Document.postingsOf]

/-- A figure to which every document adds its share has gained the shares of all analyses. -/
theorem figure_foldl_addDocument (figure : FieldIndex → Nat) (share : Text.Analysis → Nat)
    (start : figure FieldIndex.empty = 0) (doc : DocId)
    (step : ∀ f a, figure (f.addDocument doc a) = figure f + share a)
    (as : List Text.Analysis) (f? : Option FieldIndex) :
    ((as.foldl (fun f? a => some ((f?.getD FieldIndex.empty).addDocument doc a)) f?).map
        figure).getD 0 = (f?.map figure).getD 0 + (as.map share).sum := by
  induction as generalizing f? with
  | nil => simp
  | cons a as ih =>
    have before : figure (f?.getD FieldIndex.empty) = (f?.map figure).getD 0 := by
      cases f? with
      | none => exact start
      | some f => rfl
    rw [List.foldl_cons, ih, Option.map_some, Option.getD_some, step, before, List.map_cons,
      List.sum_cons, Nat.add_assoc]

theorem docCount_add (index : Index) (d : Document) (field : String) :
    (index.add d).docCount field = index.docCount field + (d.analysesOf field).length := by
  rw [docCount, docCount, get?_fields_add,
    figure_foldl_addDocument FieldIndex.docCount (fun _ => 1) rfl _ fun _ _ => rfl]
  simp

theorem sumFieldLengths_add (index : Index) (d : Document) (field : String) :
    (index.add d).sumFieldLengths field =
      index.sumFieldLengths field + ((d.analysesOf field).map Text.Analysis.length).sum := by
  rw [sumFieldLengths, sumFieldLengths, get?_fields_add,
    figure_foldl_addDocument FieldIndex.sumLengths Text.Analysis.length rfl _ fun _ _ => rfl]

theorem internalId?_add (index : Index) (d : Document) (externalId : String) :
    (index.add d).internalId? externalId =
      if d.externalId = externalId then some index.docs.size
      else index.internalId? externalId :=
  Table.get?_insert _ _ _ _

/-! ### After all additions -/

@[simp]
theorem ofDocuments_append_singleton (docs : List Document) (d : Document) :
    ofDocuments (docs ++ [d]) = (ofDocuments docs).add d := by
  simp [ofDocuments]

theorem docs_ofDocuments (docs : List Document) :
    (ofDocuments docs).docs = (docs.map store).toArray := by
  induction docs using List.reverseRecOn with
  | nil => rfl
  | append_singleton docs d ih => simp [add, ih]

@[simp]
theorem size_docs_ofDocuments (docs : List Document) :
    (ofDocuments docs).docs.size = docs.length := by
  simp [docs_ofDocuments]

theorem numDocs_ofDocuments (docs : List Document) :
    (ofDocuments docs).numDocs = docs.length :=
  size_docs_ofDocuments docs

/-- The postings of a stem are those that the documents bring, in the order of the documents. -/
theorem postings_ofDocuments (docs : List Document) (stem field : String) :
    (ofDocuments docs).postings stem field =
      docs.zipIdx.flatMap fun entry => entry.1.postingsOf entry.2 stem field := by
  induction docs using List.reverseRecOn with
  | nil => rfl
  | append_singleton docs d ih =>
    rw [ofDocuments_append_singleton, postings_add, ih, size_docs_ofDocuments]
    simp [List.zipIdx_append]

theorem docCount_ofDocuments (docs : List Document) (field : String) :
    (ofDocuments docs).docCount field = (docs.map fun d => (d.analysesOf field).length).sum := by
  induction docs using List.reverseRecOn with
  | nil => rfl
  | append_singleton docs d ih =>
    rw [ofDocuments_append_singleton, docCount_add, ih]
    simp

theorem sumFieldLengths_ofDocuments (docs : List Document) (field : String) :
    (ofDocuments docs).sumFieldLengths field =
      (docs.map fun d => ((d.analysesOf field).map Text.Analysis.length).sum).sum := by
  induction docs using List.reverseRecOn with
  | nil => rfl
  | append_singleton docs d ih =>
    rw [ofDocuments_append_singleton, sumFieldLengths_add, ih]
    simp

/-- Documents are numbered in the order in which they are added. -/
theorem pairwise_zipIdx (docs : List Document) :
    docs.zipIdx.Pairwise fun entry other => entry.2 < other.2 := by
  refine List.pairwise_map.1 ?_
  rw [List.zipIdx_map_snd]
  exact List.pairwise_lt_range'

/-- The postings of a stem never go back to an earlier document. -/
theorem postings_ordered (docs : List Document) (stem field : String) :
    Ordered ((ofDocuments docs).postings stem field) := by
  rw [postings_ofDocuments]
  refine List.pairwise_flatMap.2 ⟨?_, ?_⟩
  · rintro ⟨d, doc⟩ -
    refine List.pairwise_of_forall_mem_list fun p hp q hq => ?_
    rw [Document.doc_of_mem_postingsOf hp, Document.doc_of_mem_postingsOf hq]
  · refine (pairwise_zipIdx docs).imp fun before p hp q hq => ?_
    rw [Document.doc_of_mem_postingsOf hp, Document.doc_of_mem_postingsOf hq]
    exact Nat.le_of_lt before

end Index

end RankedRetrieval
