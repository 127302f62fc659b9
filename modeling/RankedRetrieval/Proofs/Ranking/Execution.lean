import RankedRetrieval.Proofs.Index.Contents
import RankedRetrieval.Proofs.Scoring.Building
import RankedRetrieval.Proofs.Scoring.Scores
import RankedRetrieval.Proofs.Scoring.Settling
import RankedRetrieval.Ranking.Execution

/-!
# Execution of queries

Executing a query yields the documents that its scoring tree matches, each once and with the
score that the tree gives it.

## Main Definitions

* `ScoringTree.Ranking` — the entries that a tree stands for from a bound on

## Main Results

* `Query.scoreMatches_ranking` — a run over a positioned tree yields its ranking
* `Query.execute_ranking` — executing a query yields the ranking of its scoring tree

## Design Notes

Each step of a run raises the bound past the match that it has scored.  Moving changes neither
what a tree matches nor its scores, so the entries of all steps are about the tree that the run
began with.
-/

namespace RankedRetrieval

variable {α : Type} [Scalar α] {index : Index} {model : RetrievalModel α}

namespace ScoringTree

/-- The entries that a tree stands for from a bound on. -/
structure Ranking (index : Index) (model : RetrievalModel α) (bound : DocId)
    (t : ScoringTree α) (entries : List (ScoredDocument α)) : Prop where
  /-- The documents increase, so none is repeated. -/
  increasing : (entries.map ScoredDocument.doc).Pairwise (· < ·)
  /-- They are the documents that the tree matches. -/
  mem_docs : ∀ doc, doc ∈ entries.map ScoredDocument.doc ↔
    bound ≤ doc ∧ t.matchesDoc model doc = true
  /-- Each has the score that the tree gives it. -/
  scored : ∀ e ∈ entries, scoreAt index model e.doc t = .ok e.score
  /-- Each has its name outside the index. -/
  named : ∀ e ∈ entries, e.externalId = (index.externalId? e.doc).getD ""

namespace Ranking

variable {bound : DocId} {t later : ScoringTree α} {entries : List (ScoredDocument α)}

theorem nil (none_left : ∀ doc, bound ≤ doc → t.matchesDoc model doc = false) :
    Ranking index model bound t [] where
  increasing := List.Pairwise.nil
  mem_docs doc := by
    refine ⟨fun member => by simp at member, fun ⟨reached, matched⟩ => ?_⟩
    rw [none_left doc reached] at matched
    simp at matched
  scored := by simp
  named := by simp

/-- The ranking of a moved tree is that of the tree. -/
theorem of_moved (moved : Moved t later) (ranking : Ranking index model bound later entries) :
    Ranking index model bound t entries where
  increasing := ranking.increasing
  mem_docs doc := by rw [ranking.mem_docs, moved.matchesDoc_eq]
  scored e member := by rw [← moved.scoreAt_eq, ranking.scored e member]
  named := ranking.named

/-- The least match comes before the ranking from the next document on. -/
theorem cons {e : ScoredDocument α} (found : LeastMatch model bound t e.doc)
    (scored : scoreAt index model e.doc t = .ok e.score)
    (named : e.externalId = (index.externalId? e.doc).getD "")
    (ranking : Ranking index model (e.doc + 1) t entries) :
    Ranking index model bound t (e :: entries) where
  increasing := by
    rw [List.map_cons]
    exact List.pairwise_cons.2
      ⟨fun doc member => ((ranking.mem_docs doc).1 member).1, ranking.increasing⟩
  mem_docs doc := by
    rw [List.map_cons, List.mem_cons, ranking.mem_docs]
    constructor
    · rintro (rfl | ⟨after, matched⟩)
      · exact ⟨found.reached, found.isMatch⟩
      · exact ⟨Nat.le_trans found.reached (Nat.le_of_lt after), matched⟩
    · rintro ⟨reached, matched⟩
      rcases Nat.eq_or_lt_of_le (found.least doc reached matched) with same | after
      · exact .inl same.symm
      · exact .inr ⟨after, matched⟩
  scored := List.forall_mem_cons.2 ⟨scored, ranking.scored⟩
  named := List.forall_mem_cons.2 ⟨named, ranking.named⟩

end Ranking

omit [Scalar α] in
/-- Without arguments an operator matches nothing. -/
theorem matchesDoc_combine_nil (op : Operator) (weights : List α) (current : Option DocId)
    (doc : DocId) : (combine op [] weights current).matchesDoc model doc = false := by
  rw [matchesDoc]
  split <;> rfl

end ScoringTree

namespace Query

open ScoringTree

/-- A run over a positioned tree yields its ranking from the bound on. -/
theorem scoreMatches_ranking {fuel : Nat} {bound : DocId} {t : ScoringTree α}
    (positioned : Positioned model bound t)
    (scores : ∀ doc, ∃ s, scoreAt index model doc t = .ok s) (enough : t.remaining < fuel) :
    ∃ entries, scoreMatches index model fuel t = .ok entries ∧
      Ranking index model bound t entries := by
  induction fuel generalizing bound t with
  | zero => exact absurd enough (Nat.not_lt_zero _)
  | succ fuel ih =>
    have settled := settle_settled positioned
    have moved : Moved t (t.settle model) := moved_settle t
    rw [scoreMatches]
    cases at_doc : (t.settle model).current? with
    | none =>
      refine ⟨[], rfl, Ranking.nil fun doc reached => ?_⟩
      rw [← moved.matchesDoc_eq]
      exact settled.matchesDoc_eq_false at_doc reached
    | some doc =>
      have found := (settled.current?_eq_some_iff doc).1 at_doc
      obtain ⟨s, hs⟩ := scores doc
      have scored : score index model (t.settle model) = .ok s := by
        rw [score_eq_scoreAt settled at_doc, moved.scoreAt_eq, hs]
      -- the rest of the run is about a tree that has passed the match
      have passed := moved.trans (moved_advanceTo (doc + 1) (t.settle model))
      have next : Positioned model (doc + 1) ((t.settle model).advanceTo (doc + 1)) := by
        have raised := settled.positioned.advanceTo (doc + 1)
        rwa [max_eq_right (Nat.le_succ_of_le found.reached)] at raised
      have fewer : ((t.settle model).advanceTo (doc + 1)).remaining < fuel :=
        Nat.lt_of_lt_of_le (settled.remaining_advanceTo_lt at_doc (Nat.lt_succ_self doc))
          (Nat.le_trans moved.remaining_le (Nat.le_of_lt_succ enough))
      obtain ⟨entries, run, ranking⟩ :=
        ih next (fun other => by rw [passed.scoreAt_eq]; exact scores other) fewer
      rw [← advancePast_eq_advanceTo] at run
      simp only [scored, run, Except.map]
      exact ⟨_, rfl, Ranking.cons (found.of_moved moved) hs rfl (ranking.of_moved passed)⟩

theorem mergePostings_nil (op : Operator) : mergePostings op [] = [] := by
  cases op <;> rfl

/-- An operator without arguments has a scoring tree that matches nothing. -/
theorem matchesDoc_of_isChildless [Numeral α] {q : Query α} {tree : ScoringTree α}
    (childless : q.isChildless = true) (built : q.scoringTree index model = .ok tree)
    (doc : DocId) : tree.matchesDoc model doc = false := by
  rcases q with ⟨stem, field⟩ | ⟨op, _ | ⟨q, qs⟩, weights⟩
  · simp [isChildless] at childless
  · rw [scoringTree, build.eq_def] at built
    cases positional : op.isPositional with
    | true =>
      simp only [positional, if_true] at built
      split at built
      · simp only [scoringLeaf, Query.positional, positional, if_true, positionalArgs, Except.map,
          Except.ok.injEq] at built
        rw [← built]
        simp [matchesDoc, Cursor.start, merge, mergePostings_nil]
      · simp at built
    | false =>
      simp only [positional, Bool.false_eq_true, if_false] at built
      split at built
      · simp at built
      split at built
      · simp at built
      have no_items : Argument.forOperator op (builders index model []) weights = [] := by
        unfold Argument.forOperator
        split <;> rfl
      rw [no_items] at built
      obtain rfl := Except.ok.inj built
      exact matchesDoc_combine_nil op _ none doc
  · simp [isChildless] at childless

/-- Over any documents, executing a query yields the ranking of its scoring tree: exactly the
documents that the tree matches, in increasing order, with their scores. -/
theorem execute_ranking [Numeral α] {docs : List Document} {q : Query α}
    {tree : ScoringTree α} (built : q.scoringTree (Index.ofDocuments docs) model = .ok tree) :
    ∃ entries, q.execute (Index.ofDocuments docs) model = .ok ⟨entries⟩ ∧
      Ranking (Index.ofDocuments docs) model 0 tree entries := by
  unfold execute
  split
  · rename_i childless
    exact ⟨[], rfl, Ranking.nil fun doc _ => matchesDoc_of_isChildless childless built doc⟩
  · have tree_built := built_of_scoringTree (Index.postings_ordered docs) built
    obtain ⟨entries, run, ranking⟩ := scoreMatches_ranking tree_built.positioned
      (tree_built.scoreAt_ok (Index.ofDocuments docs)) (Nat.lt_succ_self tree.remaining)
    rw [built]
    simp only [run, Except.map]
    exact ⟨entries, rfl, ranking⟩

/-- A union over an intersection and a term, over three documents. -/
theorem execute_ranking_union :
    let docs := [(Document.named "a").withField "body" "dog cat",
      (Document.named "b").withField "body" "dog", (Document.named "c").withField "body" "bird"]
    let q : Query Number := apply .or
      [apply .and [scored (term "dog" "body"), scored (term "cat" "body")] [],
        scored (term "bird" "body")] []
    ∃ tree entries, q.scoringTree (Index.ofDocuments docs) .rankedBoolean = .ok tree ∧
      q.execute (Index.ofDocuments docs) .rankedBoolean = .ok ⟨entries⟩ ∧
      entries.map ScoredDocument.doc = [0, 2] ∧
      Ranking (Index.ofDocuments docs) .rankedBoolean 0 tree entries := by
  intro docs q
  have some_tree : (q.scoringTree (Index.ofDocuments docs) .rankedBoolean).isOk = true := by
    decide +kernel
  have found : (q.execute (Index.ofDocuments docs) .rankedBoolean).toOption.map
      (fun l => l.entries.map ScoredDocument.doc) = some [0, 2] := by
    decide +kernel
  cases built : q.scoringTree (Index.ofDocuments docs) .rankedBoolean with
  | error e => simp [built, Except.isOk, Except.toBool] at some_tree
  | ok tree =>
    obtain ⟨entries, run, ranking⟩ := execute_ranking built
    rw [run] at found
    exact ⟨tree, entries, rfl, run, Option.some.inj found, ranking⟩

end Query

end RankedRetrieval
