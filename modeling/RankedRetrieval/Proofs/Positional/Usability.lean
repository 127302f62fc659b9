import Mathlib.Data.List.Perm.Subperm
import RankedRetrieval.Number
import RankedRetrieval.Proofs.Index.Consistency
import RankedRetrieval.Proofs.Positional.Appending
import RankedRetrieval.Proofs.Positional.Evaluation

/-!
# Usable lists of positional queries

The inverted list of a positional query over drafts can stand wherever the list of a stem can:
its figures are those of the documents, and every position is that of a stem of the query.

## Main Definitions

* `Query.Usable` — an inverted list that can be scored

## Main Results

* `Query.usable_of_positional` — evaluating a positional query yields a usable list
-/

namespace RankedRetrieval

open Index

theorem Index.wellPosted_ofDrafts (drafts : List Draft) : (ofDrafts drafts).WellPosted where
  increasing := postings_increasing drafts
  positions_ne_nil _ _ _ := positions_ne_nil
  ascending _ _ _ member := (positions_increasing member).imp fun before => Nat.le_of_lt before

/-- Increasing documents below a bound are no more than the bound. -/
theorem Increasing.length_le {ps : List Posting} {bound : DocId} (increasing : Increasing ps)
    (below : ∀ p ∈ ps, p.doc < bound) : ps.length ≤ bound := by
  have distinct : (ps.map Posting.doc).Nodup :=
    (List.pairwise_map.2 increasing).imp fun before => Nat.ne_of_lt before
  have within : ps.map Posting.doc ⊆ List.range bound := by
    intro doc member
    obtain ⟨p, hp, rfl⟩ := List.mem_map.1 member
    exact List.mem_range.2 (below p hp)
  have short := (List.Nodup.subperm distinct within).length_le
  rwa [List.length_map, List.length_range] at short

namespace Query

variable {α : Type}

/-- An inverted list that stands for a query over drafts. -/
structure Usable (drafts : List Draft) (q : Query α) (list : InvertedList) : Prop where
  /-- The documents increase. -/
  docs_increasing : list.postings.Pairwise fun p r => p.doc < r.doc
  /-- They are documents of the index. -/
  docs_lt : ∀ p ∈ list.postings, p.doc < (ofDrafts drafts).numDocs
  /-- There are no more of them than documents. -/
  df_le : list.df ≤ (ofDrafts drafts).numDocs
  /-- A posting has positions. -/
  positions_ne_nil : ∀ p ∈ list.postings, p.positions ≠ []
  /-- They never decrease. -/
  positions_ascending : ∀ p ∈ list.postings, p.positions.Pairwise (· ≤ ·)
  /-- They lie within the field of the document. -/
  positions_lt : ∀ p ∈ list.postings, ∀ x ∈ p.positions,
    x < (ofDrafts drafts).fieldLength list.field p.doc
  /-- The number of occurrences is that of all documents together. -/
  ctf_eq : list.ctf = (list.postings.map Posting.tf).sum
  /-- Filling the list posting by posting refuses none of them and counts all occurrences. -/
  filled : list.postings.foldlM Filling.append? (Filling.empty list.field) =
    some ⟨list, list.ctf⟩
  /-- A stem of the query stands at every position in the last text of the field. -/
  occurs : ∀ p ∈ list.postings, ∀ x ∈ p.positions, ∃ stem, (stem, list.field) ∈ q.leaves ∧
    ∃ draft text, drafts[p.doc]? = some draft ∧ draft.text? list.field = some text ∧
      (stem, x) ∈ (Text.analyze text).terms

variable [Numeral α]

/-- Over any drafts, evaluating a positional query yields a usable list. -/
theorem usable_of_positional {drafts : List Draft} {q : Query α} {list : InvertedList}
    (evaluated : q.positional (ofDrafts drafts) = .ok list) : Usable drafts q list := by
  have posted := wellPosted_ofDrafts drafts
  have increasing : Increasing list.postings := positional_increasing posted.increasing evaluated
  have sound := positional_sound posted q evaluated
  have docs_lt : ∀ p ∈ list.postings, p.doc < (ofDrafts drafts).numDocs := by
    intro p hp
    obtain ⟨x, hx⟩ := List.exists_mem_of_ne_nil p.positions (sound p hp).positions_ne_nil
    obtain ⟨stem, -, r, hr, same, -⟩ := (sound p hp).occurs_at x hx
    rw [← same]
    exact doc_lt_numDocs hr
  refine
    { docs_increasing := increasing
      docs_lt
      df_le := increasing.length_le docs_lt
      positions_ne_nil := fun p hp => (sound p hp).positions_ne_nil
      positions_ascending := fun p hp => (sound p hp).ascending
      positions_lt := ?_
      ctf_eq := ctf_eq_sum list
      filled := Filling.foldlM_append? list.field increasing
      occurs := ?_ }
  · intro p hp x hx
    obtain ⟨stem, -, occurs⟩ := (sound p hp).occurs_at x hx
    obtain ⟨tokens, slot, found, at_x, -⟩ := posted_iff_exists_slot.1 occurs
    rw [fieldLength, found]
    exact (List.getElem?_eq_some_iff.1 at_x).1
  · intro p hp x hx
    obtain ⟨stem, leaf, occurs⟩ := (sound p hp).occurs_at x hx
    exact ⟨stem, leaf, posted_iff_exists_text.1 occurs⟩

/-- A phrase within a window of either of two stems, one of which does not occur. -/
theorem usable_of_positional_window :
    let drafts : List Draft := [⟨"a", [.setField "body" "dog cat bird"]⟩]
    let q : Query Number := apply (.window 3)
      [apply (.near 1) [term "dog" "body", term "cat" "body"] [],
        apply .syn [term "bird" "body", term "fox" "body"] []] []
    q.positional (ofDrafts drafts) = .ok ⟨"body", [⟨0, [2]⟩]⟩ ∧
      Usable drafts q ⟨"body", [⟨0, [2]⟩]⟩ := by
  intro drafts q
  have posted : ["dog", "cat", "bird", "fox"].map (fun stem =>
      (ofDrafts drafts).postings stem "body") = [[⟨0, [0]⟩], [⟨0, [1]⟩], [⟨0, [2]⟩], []] := by
    decide +kernel
  simp only [List.map_cons, List.map_nil, List.cons.injEq, and_true] at posted
  obtain ⟨dog, cat, bird, fox⟩ := posted
  -- sorting does not compute, but the union of the two stems sorts a single position
  have either : Merge.synonym [⟨"body", [⟨0, [2]⟩]⟩, ⟨"body", []⟩] = [⟨0, [2]⟩] := by
    have least : Merge.leastDoc?
        [Cursor.start ⟨"body", [⟨0, [2]⟩]⟩, Cursor.start ⟨"body", []⟩] = some 0 := by
      decide
    have sorted : Merge.positionsAt 0
        [Cursor.start ⟨"body", [⟨0, [2]⟩]⟩, Cursor.start ⟨"body", []⟩] = [2] :=
      List.mergeSort_singleton 2
    show Merge.unite 1 [Cursor.start ⟨"body", [⟨0, [2]⟩]⟩, Cursor.start ⟨"body", []⟩] = _
    simp only [Merge.unite, least, sorted]
  have evaluated : q.positional (ofDrafts drafts) = .ok ⟨"body", [⟨0, [2]⟩]⟩ := by
    have windowed : Merge.window 3
        [⟨"body", Merge.near 1 [⟨"body", [⟨0, [0]⟩]⟩, ⟨"body", [⟨0, [1]⟩]⟩]⟩,
          ⟨"body", [⟨0, [2]⟩]⟩] = [⟨0, [2]⟩] := by
      decide +kernel
    simp [q, positional, positionalArgs, invertedList, dog, cat, bird, fox, Operator.isPositional,
      Except.map, merge, mergePostings, either, windowed]
  exact ⟨evaluated, usable_of_positional evaluated⟩

end Query

end RankedRetrieval
