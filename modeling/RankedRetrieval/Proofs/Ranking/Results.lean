import RankedRetrieval.Proofs.Index.Consistency
import RankedRetrieval.Proofs.Ranking.Execution

/-!
# The scores of a result

## Main Definitions

* `ScoreList.scoreOf?` — the score that a result gives a document

## Main Results

* `Query.execute_of_ordered` — executing a query over ordered postings yields a ranking
* `ScoringTree.Ranking.scoreOf?_eq` — the score of a document in a ranking is that of the tree
-/

namespace RankedRetrieval

variable {α : Type}

/-- The score that a result gives a document, if it lists the document. -/
def ScoreList.scoreOf? (l : ScoreList α) (doc : DocId) : Option α :=
  (l.entries.find? fun e => e.doc = doc).map ScoredDocument.score

variable [Scalar α] {index : Index} {model : RetrievalModel α}

/-- A document that the tree matches has its score in the ranking, and no other document has
one. -/
theorem ScoringTree.Ranking.scoreOf?_eq {t : ScoringTree α} {entries : List (ScoredDocument α)}
    (ranking : Ranking index model 0 t entries) (doc : DocId) :
    (ScoreList.mk entries).scoreOf? doc =
      if t.matchesDoc model doc then (scoreAt index model doc t).toOption else none := by
  rw [ScoreList.scoreOf?]
  cases found : entries.find? fun e => e.doc = doc with
  | none =>
    have unlisted : doc ∉ entries.map ScoredDocument.doc := by
      intro member
      obtain ⟨e, he, rfl⟩ := List.mem_map.1 member
      have other := List.find?_eq_none.1 found e he
      simp at other
    have unmatched : t.matchesDoc model doc ≠ true := fun matched =>
      unlisted ((ranking.mem_docs doc).2 ⟨Nat.zero_le doc, matched⟩)
    rw [if_neg unmatched]
    rfl
  | some e =>
    have member : e ∈ entries := List.mem_of_find?_eq_some found
    have same : e.doc = doc := by simpa using List.find?_some found
    have matched : t.matchesDoc model doc = true := by
      rw [← same]
      exact ((ranking.mem_docs e.doc).1 (List.mem_map_of_mem member)).2
    rw [if_pos matched, ← same, ranking.scored e member]
    rfl

/-- A document that the tree matches is listed with the score that the tree gives it. -/
theorem ScoringTree.Ranking.exists_entry {t : ScoringTree α} {entries : List (ScoredDocument α)}
    (ranking : Ranking index model 0 t entries) {doc : DocId} {s : α}
    (matched : t.matchesDoc model doc = true) (scored : scoreAt index model doc t = .ok s) :
    ∃ e ∈ entries, e.doc = doc ∧ e.score = s := by
  obtain ⟨e, he, rfl⟩ := List.mem_map.1 ((ranking.mem_docs doc).2 ⟨Nat.zero_le doc, matched⟩)
  exact ⟨e, he, rfl, Except.ok.inj ((ranking.scored e he).symm.trans scored)⟩

/-- Over ordered postings, executing a query yields the ranking of its scoring tree. -/
theorem Query.execute_of_ordered [Numeral α] {q : Query α} {tree : ScoringTree α}
    (ordered : ∀ stem field, Ordered (index.postings stem field))
    (built : q.scoringTree index model = .ok tree) :
    ∃ entries, q.execute index model = .ok ⟨entries⟩ ∧
      ScoringTree.Ranking index model 0 tree entries := by
  rw [execute]
  by_cases childless : q.isChildless = true
  · rw [if_pos childless]
    exact ⟨[], rfl, .nil fun doc _ => matchesDoc_of_isChildless childless built doc⟩
  · have tree_built := built_of_scoringTree ordered built
    obtain ⟨entries, run, ranking⟩ := scoreMatches_ranking tree_built.positioned
      (tree_built.scoreAt_ok index) (Nat.lt_succ_self tree.remaining)
    rw [if_neg childless, built]
    simp only [run, Except.map]
    exact ⟨entries, rfl, ranking⟩

/-- The postings of an index over drafts are ordered. -/
theorem Index.ordered_ofDrafts (drafts : List Draft) (stem field : String) :
    Ordered ((ofDrafts drafts).postings stem field) :=
  (postings_increasing drafts stem field).ordered

end RankedRetrieval
