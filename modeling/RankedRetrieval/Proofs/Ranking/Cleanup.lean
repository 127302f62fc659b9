import RankedRetrieval.Proofs.Exact.Rounding
import RankedRetrieval.Proofs.Positional.Usability
import RankedRetrieval.Proofs.Ranking.Results
import RankedRetrieval.Proofs.Scoring.Replacing
import RankedRetrieval.Proofs.Scoring.Standing

/-!
# Results of clean queries

Cleaning a proper query changes neither the documents that it finds nor, under the Boolean models,
their scores.

## Main Results

* `ScoringTree.Ranking.eq_of_same`, `ScoringTree.Ranking.eq_of_standing` — rankings of trees that
  match and score alike are equal
* `Query.execute_cleanup` — cleaning a query changes neither its documents nor its Boolean scores

## Design Notes

Weights of positional operators are what a proper query does not have.  They are printed like
arguments, so with them two scored arguments of one text may find different documents, and folding
takes one of them for a repeat of the other.
-/

namespace RankedRetrieval

/-! ### Rankings of trees that agree -/

namespace ScoringTree.Ranking

variable {α : Type} [Scalar α] {index : Index} {model : RetrievalModel α} {bound : DocId}
  {t u : ScoringTree α} {entries others : List (ScoredDocument α)}

/-- Rankings of trees that match the same documents list the same documents. -/
theorem docs_eq (ranking : Ranking index model bound t entries)
    (other : Ranking index model bound u others)
    (matches_iff : ∀ doc, u.matchesDoc model doc = true ↔ t.matchesDoc model doc = true) :
    others.map ScoredDocument.doc = entries.map ScoredDocument.doc := by
  refine other.increasing.eq_of_mem_iff ranking.increasing fun doc => ?_
  rw [other.mem_docs, ranking.mem_docs, matches_iff]

/-- Rankings of trees that match and score the same documents alike are equal. -/
theorem eq_of_same (ranking : Ranking index model bound t entries)
    (other : Ranking index model bound u others)
    (matches_iff : ∀ doc, u.matchesDoc model doc = true ↔ t.matchesDoc model doc = true)
    (scores_eq : ∀ doc, t.matchesDoc model doc = true →
      scoreAt index model doc u = scoreAt index model doc t) : others = entries := by
  have docs := ranking.docs_eq other matches_iff
  have lengths : others.length = entries.length := by simpa using congrArg List.length docs
  refine List.ext_getElem lengths fun i hi hi' => ?_
  have same_doc : others[i].doc = entries[i].doc := by
    have at_i := congrArg (fun docs => docs[i]?) docs
    simpa [hi, hi'] using at_i
  have listed : entries[i] ∈ entries := List.getElem_mem hi'
  have matched : t.matchesDoc model entries[i].doc = true :=
    ((ranking.mem_docs _).1 (List.mem_map_of_mem listed)).2
  have same_name : others[i].externalId = entries[i].externalId := by
    rw [other.named _ (List.getElem_mem hi), ranking.named _ listed, same_doc]
  have same_score : others[i].score = entries[i].score := by
    have score := other.scored _ (List.getElem_mem hi)
    rw [same_doc, scores_eq _ matched, ranking.scored _ listed] at score
    exact (Except.ok.inj score).symm
  show (⟨others[i].doc, others[i].externalId, others[i].score⟩ : ScoredDocument α) = entries[i]
  rw [same_doc, same_name, same_score]

/-- Rankings of supported trees that say the same of every document are equal. -/
theorem eq_of_standing (ranking : Ranking index model bound t entries)
    (other : Ranking index model bound u others) (supported : t.Supported model)
    (other_supported : u.Supported model)
    (same : ∀ doc, u.standing index model doc = t.standing index model doc) : others = entries := by
  refine ranking.eq_of_same other (fun doc => ?_) fun doc _ => ?_
  · have same_match : u.matchesDoc model doc = t.matchesDoc model doc :=
      congrArg Standing.isMatch (same doc)
    rw [same_match]
  · rw [other_supported.scoreAt_eq_standing, supported.scoreAt_eq_standing, same doc]

end ScoringTree.Ranking

namespace Query

open Index ScoringTree

/-- Cleaning a proper query changes neither whether it can be scored nor what it finds: the
documents are the same, and under the Boolean models so are the scores, as far as the counts fit
into a machine word.  In particular a positional operator over a single argument evaluates to the
list of that argument. -/
theorem execute_cleanup {drafts : List Draft} {model : RetrievalModel Number} {q : Query Number}
    {tree : ScoringTree Number} (proper : Proper q)
    (built : q.scoringTree (ofDrafts drafts) model = .ok tree) :
    (∃ clean_tree, q.cleanup.scoringTree (ofDrafts drafts) model = .ok clean_tree) ∧
    (∃ result clean_result, q.execute (ofDrafts drafts) model = .ok result ∧
      q.cleanup.execute (ofDrafts drafts) model = .ok clean_result ∧
      clean_result.entries.map ScoredDocument.doc = result.entries.map ScoredDocument.doc ∧
      (model = .unrankedBoolean → clean_result = result) ∧
      (model = .rankedBoolean → (∀ p ∈ q.counted, ∀ doc,
        p.frequency (ofDrafts drafts) doc < Scalar.countBound) → clean_result = result)) ∧
    ∀ op weights, ∀ p : Query Number, op.isPositional = true →
      (∀ n, op = .near n ∨ op = .window n → 0 < n) →
      (apply op [p] weights).positional (ofDrafts drafts) = p.positional (ofDrafts drafts) := by
  have posted := wellPosted_ofDrafts drafts
  have replaces : Replaces (ofDrafts drafts) model q q.cleanup := proper.replaces_cleanup posted
  have clean_proper := proper.cleanup
  obtain ⟨clean_tree, clean_built⟩ := replaces.scoringTree_ok built
  obtain ⟨entries, run, ranking⟩ := execute_of_ordered (ordered_ofDrafts drafts) built
  obtain ⟨clean_entries, clean_run, clean_ranking⟩ :=
    execute_of_ordered (ordered_ofDrafts drafts) clean_built
  have matches_iff (doc : DocId) :
      clean_tree.matchesDoc model doc = true ↔ tree.matchesDoc model doc = true := by
    rw [clean_proper.matchesDoc_iff posted clean_built, proper.matchesDoc_iff posted built,
      replaces.rank doc]
  refine ⟨⟨clean_tree, clean_built⟩, ⟨⟨entries⟩, ⟨clean_entries⟩, run, clean_run,
    ranking.docs_eq clean_ranking matches_iff, ?unranked, ?ranked⟩, ?single⟩
  case unranked =>
    rintro rfl
    refine congrArg ScoreList.mk (ranking.eq_of_same clean_ranking matches_iff ?_)
    intro doc matched
    rw [scoreAt_unrankedBoolean (supported_of_scoringTree built) matched,
      scoreAt_unrankedBoolean (supported_of_scoringTree clean_built) ((matches_iff doc).2 matched)]
  case ranked =>
    rintro rfl small
    refine congrArg ScoreList.mk (ranking.eq_of_same clean_ranking matches_iff ?_)
    intro doc matched
    have small_here (p : Query Number) (hp : p ∈ q.counted) := small p hp doc
    -- both trees score the document by its rank, which cleaning does not change
    have ranked := proper.rankedAt posted built small_here
    have clean_ranked := clean_proper.rankedAt posted clean_built (replaces.frequency_lt small_here)
    have positive := ranked.matchesDoc_iff.1 matched
    rw [replaces.rank doc] at clean_ranked
    rw [clean_ranked.scoreAt_eq positive, ranked.scoreAt_eq positive]
  case single =>
    intro op weights p positional reach
    exact positional_single posted positional reach p weights

/-- A phrase under a union and an intersection that combine nothing else. -/
theorem execute_cleanup_phrase :
    let drafts : List Draft :=
      [⟨"a", [.setField "body" "dog cat dog cat"]⟩, ⟨"b", [.setField "body" "cat dog"]⟩]
    let phrase : Query Number :=
      apply (.near 1) [apply (.near 2) [term "dog" "body"] [], term "cat" "body"] []
    let q : Query Number := apply .and [apply .or [apply .score [phrase] []] []] []
    ∃ tree result, Proper q ∧ q.scoringTree (ofDrafts drafts) .rankedBoolean = .ok tree ∧
      q.execute (ofDrafts drafts) .rankedBoolean = .ok result ∧
      q.cleanup.execute (ofDrafts drafts) .rankedBoolean = .ok result ∧
      result.entries.map ScoredDocument.doc = [0] := by
  intro drafts phrase q
  have proper_term (stem : String) (bare : Bare stem) : Proper (term stem "body" : Query Number) :=
    .term bare (by decide)
  have proper_phrase : Proper phrase := by
    refine .apply ⟨.near Nat.one_pos (by simp) (by simp [isPositional, Operator.isPositional]),
      fun _ => rfl⟩ (List.forall_mem_cons.2 ⟨?_, List.forall_mem_singleton.2
        (proper_term "cat" (by decide))⟩)
    exact .apply ⟨.near Nat.two_pos (by simp) (by simp [isPositional]), fun _ => rfl⟩
      (List.forall_mem_singleton.2 (proper_term "dog" (by decide)))
  have proper : Proper q :=
    .apply ⟨.structural rfl (by decide) (by simp), fun _ => rfl⟩ <|
      List.forall_mem_singleton.2 <|
        .apply ⟨.structural rfl (by decide) (by simp), fun _ => rfl⟩ <|
          List.forall_mem_singleton.2 <|
            .apply ⟨.score rfl, fun _ => rfl⟩ (List.forall_mem_singleton.2 proper_phrase)
  have evaluated : phrase.positional (ofDrafts drafts) = .ok ⟨"body", [⟨0, [1, 3]⟩]⟩ := by
    decide +kernel
  have small (doc : DocId) : phrase.frequency (ofDrafts drafts) doc < Scalar.countBound := by
    rw [frequency, evaluated]
    by_cases first : doc = 0
    · subst first
      decide
    · have other : ¬ 0 = doc := fun same => first same.symm
      simp [other, Scalar.countBound]
  have counted_eq : q.counted = [phrase] := rfl
  have some_tree : (q.scoringTree (ofDrafts drafts) .rankedBoolean).isOk = true := by
    decide +kernel
  have found : (q.execute (ofDrafts drafts) .rankedBoolean).toOption.map
      (fun result => result.entries.map ScoredDocument.doc) = some [0] := by
    decide +kernel
  cases built : q.scoringTree (ofDrafts drafts) .rankedBoolean with
  | error e => simp [built, Except.isOk, Except.toBool] at some_tree
  | ok tree =>
    obtain ⟨-, ⟨result, clean_result, run, clean_run, -, -, same⟩, -⟩ :=
      execute_cleanup proper built
    obtain rfl : clean_result = result := same rfl fun p hp doc => by
      rw [counted_eq] at hp
      exact List.mem_singleton.1 hp ▸ small doc
    rw [run] at found
    exact ⟨tree, clean_result, proper, rfl, run, clean_run, Option.some.inj found⟩

/-- Of two phrases one has a weight that is printed like the first term of the other.  Cleaning
brings both under one operator, which then takes the second one for a repeat of the first. -/
theorem execute_cleanup_weighted :
    let drafts : List Draft :=
      [⟨"a", [.setField "5" "dog cat"]⟩, ⟨"b", [.setField "5" "1 dog cat"]⟩]
    let weighted : Query Number :=
      apply (.near 1) [term "dog" "5", term "cat" "5"] [.ofFloat 1.5]
    let longer : Query Number :=
      apply (.near 1) [term "1" "5", term "dog" "5", term "cat" "5"] []
    let q : Query Number :=
      apply .and [apply .score [weighted] [], apply .and [apply .score [longer] []] []] []
    let docs (q : Query Number) := (q.execute (ofDrafts drafts) .unrankedBoolean).toOption.map
      fun result => result.entries.map ScoredDocument.doc
    Combinable q ∧ (q.scoringTree (ofDrafts drafts) .unrankedBoolean).isOk = true ∧
      docs q = some [1] ∧ docs q.cleanup = some [0, 1] := by
  intro drafts weighted longer q docs
  refine ⟨?_, by decide +kernel, by decide +kernel, by decide +kernel⟩
  have of_term (stem : String) (bare : Bare stem) : Combinable (term stem "5" : Query Number) :=
    .term bare (by decide)
  have of_phrase (terms : List (Query Number)) (weights : List Number) (some_term : terms ≠ [])
      (terms_combinable : ∀ q ∈ terms, q.isPositional = true ∧ Combinable q) :
      Combinable (apply .score [apply (.near 1) terms weights] []) := by
    refine .apply (.score rfl) (List.forall_mem_singleton.2 ?_)
    refine .apply (.near Nat.one_pos some_term ?_) ?_
    · exact fun q hq => (terms_combinable q hq).1
    · exact fun q hq => (terms_combinable q hq).2
  have dog := of_term "dog" (by decide)
  have cat := of_term "cat" (by decide)
  have weighted_combinable : Combinable (apply .score [weighted] []) :=
    of_phrase _ _ (by simp) (by simp [dog, cat, isPositional])
  have longer_combinable : Combinable (apply .score [longer] []) :=
    of_phrase _ _ (by simp) (by simp [of_term "1" (by decide), dog, cat, isPositional])
  have inner : Combinable (apply .and [apply .score [longer] []] []) :=
    .apply (.structural rfl (by decide) (by simp)) (List.forall_mem_singleton.2 longer_combinable)
  refine .apply (.structural rfl (by decide) (by simp)) ?_
  exact List.forall_mem_cons.2 ⟨weighted_combinable, List.forall_mem_singleton.2 inner⟩

end Query

end RankedRetrieval
