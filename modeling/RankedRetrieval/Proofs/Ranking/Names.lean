import RankedRetrieval.Proofs.Positional.Usability
import RankedRetrieval.Proofs.Ranking.Results

/-!
# The names of results

A result names its documents as the index does, so that they are found again by their names.

## Main Results

* `ScoringTree.lt_numDocs_of_matchesDoc` — a scoring tree matches documents of the index only
* `Query.named_of_execute` — the entries of a result have the names of their documents
* `Query.internalId?_of_execute` — documents that are named apart are found by these names
-/

namespace RankedRetrieval

/-! ### Documents and their names -/

namespace Index

variable {drafts : List Draft} {doc : DocId}

theorem externalId?_ofDrafts (drafts : List Draft) (doc : DocId) :
    (ofDrafts drafts).externalId? doc = drafts[doc]?.map Draft.externalId := by
  rw [externalId?, ofDrafts, docs_ofDocuments]
  simp only [List.getElem?_toArray, List.getElem?_map, Option.map_map]
  exact congrArg (drafts[doc]?.map ·) (funext Draft.externalId_document)

/-- Documents that are named apart are found by their names. -/
theorem internalId?_of_nodup (apart : (drafts.map Draft.externalId).Nodup) {draft : Draft}
    (at_doc : drafts[doc]? = some draft) :
    (ofDrafts drafts).internalId? draft.externalId = some doc := by
  have named : (drafts.map Draft.externalId)[doc]? = some draft.externalId := by
    rw [List.getElem?_map, at_doc, Option.map_some]
  refine internalId?_ofDrafts.2 ⟨by rw [at_doc, Option.map_some], fun later after found => ?_⟩
  rw [← List.getElem?_map] at found
  have same : doc = later :=
    (List.getElem?_inj (List.getElem?_eq_some_iff.1 named).1 apart).1 (named.trans found.symm)
  exact Nat.ne_of_lt after same

end Index

/-! ### Documents that are matched -/

variable {α : Type} [Numeral α] {drafts : List Draft} {model : RetrievalModel α}

/-- A tree that matches documents of the index only. -/
def ScoringTree.MatchesWithin (model : RetrievalModel α) (n : Nat) (t : ScoringTree α) : Prop :=
  ∀ doc, t.matchesDoc model doc = true → doc < n

/-- Building yields such trees: a leaf lists documents of the index, and whatever a combination
matches, one of its arguments matches too. -/
theorem Query.givenByBuilding_matchesWithin (drafts : List Draft) (model : RetrievalModel α) :
    GivenByBuilding (Index.ofDrafts drafts) model
      (ScoringTree.MatchesWithin model (Index.ofDrafts drafts).numDocs) where
  leaf q list qtf _ evaluated doc matched := by
    obtain ⟨p, member, rfl⟩ := ScoringTree.matchesDoc_leaf.1 matched
    exact (usable_of_positional evaluated).docs_lt p member
  combine op args weights _ _ args_within doc matched := by
    cases asks : ScoringTree.asksForAll model op with
    | false =>
      obtain ⟨t, member, matched⟩ := (ScoringTree.matchesDoc_combine_any asks).1 matched
      exact args_within t member doc matched
    | true =>
      obtain ⟨nonempty, all_match⟩ := (ScoringTree.matchesDoc_combine_all asks).1 matched
      obtain ⟨t, member⟩ := List.exists_mem_of_ne_nil args nonempty
      exact args_within t member doc (ScoringTree.allMatch_iff.1 all_match t member)

variable [Scalar α] {q : Query α}

theorem ScoringTree.lt_numDocs_of_matchesDoc {tree : ScoringTree α} {doc : DocId}
    (built : q.scoringTree (Index.ofDrafts drafts) model = .ok tree)
    (matched : tree.matchesDoc model doc = true) : doc < (Index.ofDrafts drafts).numDocs :=
  Query.holds_of_build (Query.givenByBuilding_matchesWithin drafts model) q 1 built doc matched

namespace Query

variable {list : ScoreList α} {e : ScoredDocument α}

/-- The entries of a result are documents of the index under their names. -/
theorem named_of_execute (executed : q.execute (Index.ofDrafts drafts) model = .ok list)
    (member : e ∈ list.entries) :
    ∃ draft, drafts[e.doc]? = some draft ∧ e.externalId = draft.externalId := by
  cases built : q.scoringTree (Index.ofDrafts drafts) model with
  | ok tree =>
    obtain ⟨entries, run, ranking⟩ := execute_of_ordered (Index.ordered_ofDrafts drafts) built
    obtain rfl := Except.ok.inj (executed.symm.trans run)
    have matched := ((ranking.mem_docs e.doc).1 (List.mem_map_of_mem member)).2
    have within := ScoringTree.lt_numDocs_of_matchesDoc built matched
    rw [Index.numDocs_ofDrafts] at within
    refine ⟨drafts[e.doc], List.getElem?_eq_getElem within, ?_⟩
    rw [ranking.named e member, Index.externalId?_ofDrafts, List.getElem?_eq_getElem within]
    rfl
  | error cause =>
    -- an operator without arguments yields nothing, and any other query fails
    rw [execute, built] at executed
    split at executed
    · obtain rfl := Except.ok.inj executed
      simp [ScoreList.empty] at member
    · simp at executed

/-- Documents that are named apart are found by the names that a result gives them. -/
theorem internalId?_of_execute (apart : (drafts.map Draft.externalId).Nodup)
    (executed : q.execute (Index.ofDrafts drafts) model = .ok list) (member : e ∈ list.entries) :
    (Index.ofDrafts drafts).internalId? e.externalId = some e.doc := by
  obtain ⟨draft, at_doc, named⟩ := named_of_execute executed member
  rw [named]
  exact Index.internalId?_of_nodup apart at_doc

end Query

end RankedRetrieval
