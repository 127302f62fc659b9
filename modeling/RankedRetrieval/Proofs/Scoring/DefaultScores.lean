import RankedRetrieval.Proofs.Scoring.Averages
import RankedRetrieval.Proofs.Scoring.RunStates

/-!
# Scores and default scores

Under two-stage smoothing it never hurts a document to match: its score is at least the default
score that it would have otherwise.

## Main Results

* `Indri.termScore_mono` — the score of a term grows with its frequency
* `ScoringTree.GrownFrom.default_below` — a default score is at most the score
* `ScoringTree.GrownFrom.score_between` — the score of a combination lies between those of its
  arguments
* `Query.execute_between` — what is so of the scores of a result

## Design Notes

**Scores and default scores are means over the same weights.**  They differ only in the scores of
the arguments, and for these the comparison is made already.  So it is made by induction on the tree
for the score that a document has, whether it matches or not.

**A combination of no arguments matches nothing**, so it has no score, and its default score has no
arguments to lie between.
-/

namespace RankedRetrieval

open ExactNumber

variable {F : ExactFunctions} {p : Indri (ExactNumber F)}

/-- The score of a term grows with its frequency. -/
theorem Indri.termScore_mono (range : p.InRange) (some_mu : p.mu.Positive) {tf more : Nat}
    (le : tf ≤ more) (ctf total docLength : Nat) :
    (p.termScore (Scalar.ofNat tf) (Scalar.ofNat ctf) (Scalar.ofNat total)
        (Scalar.ofNat docLength)).Below
      (p.termScore (Scalar.ofNat more) (Scalar.ofNat ctf) (Scalar.ofNat total)
        (Scalar.ofNat docLength)) := by
  have lambda_nonneg := nonneg_iff_atMost.2 range.lambda_nonneg
  have background := background_nonneg (F := F) ctf total
  have divisor : (Scalar.ofNat docLength + p.mu).Positive := by
    rw [Scalar.ExactSums.add_comm]
    exact some_mu.add (nonneg_ofNat docLength)
  have bayesian := ((Below.ofNat le).add (some_mu.nonneg.mul background).below_self).div_right
    divisor
  exact (range.one_sub_lambda_nonneg.below_self.mul bayesian).add
    (lambda_nonneg.mul background).below_self

namespace ScoringTree

variable {drafts : List Draft} {q : Query (ExactNumber F)} {t : ScoringTree (ExactNumber F)}

namespace GrownFrom

section Grown

variable (laws : F.PowLaws) (range : p.InRange) (some_mu : p.mu.Positive)
  (nonneg : ∀ op args weights, Query.apply op args weights ∈ q.nodes → ∀ w ∈ weights, w.Nonneg)
  (index : Index) (doc : DocId)

include laws range some_mu nonneg

/-- The default score of a document is at most its score. -/
theorem default_below (grown : t.GrownFrom drafts (.indri p) q) :
    (t.standing index (.indri p) doc).default.Below
      (t.standing index (.indri p) doc).smoothed := by
  induction grown with
  | @leaf _ list qtf =>
    obtain ⟨tf, smoothed_eq⟩ := exists_smoothed_leaf index p doc (Cursor.start list) qtf
    rw [smoothed_eq]
    exact Indri.termScore_mono range some_mu (Nat.zero_le tf) _ _ _
  | @combine op args weights trees part supported structural _ trees_grown ih =>
    have trees_supported (t : ScoringTree (ExactNumber F)) (ht : t ∈ trees) :
        t.Supported (.indri p) := (trees_grown t ht).supported
    have weights_nonneg := weights_scoredArgs_nonneg op args (nonneg op args weights part)
    have args_below : List.Forall₂ Below
        ((trees.map (standing index (.indri p) doc)).map Standing.default)
        ((trees.map (standing index (.indri p) doc)).map Standing.smoothed) := by
      rw [List.forall₂_map_left_iff, List.forall₂_map_right_iff, List.forall₂_same]
      exact List.forall_mem_map.2 ih
    have means_below := meanOf_mono laws op weights_nonneg args_below
    rw [Supported.standing_combine trees_supported, Standing.combine,
      combinedScore_indri supported structural, combinedDefault_indri supported structural,
      Standing.smoothed]
    split
    · exact means_below
    · exact means_below.left.below_self

/-- The mean of what the arguments of a combination are scored by, be it default scores or not. -/
theorem mean_between {op : Operator} {args : List (Query (ExactNumber F))}
    {weights : List (ExactNumber F)} {trees : List (ScoringTree (ExactNumber F))}
    (part : Query.apply op args weights ∈ q.nodes)
    (same_length : trees.length = (Query.scoredArgs op args weights).length)
    (trees_grown : ∀ t ∈ trees, t.GrownFrom drafts (.indri p) q) (some_tree : trees ≠ [])
    {score : Standing (ExactNumber F) → ExactNumber F}
    (either : score = Standing.smoothed ∨ score = Standing.default) :
    Between (meanOf op ((Query.scoredArgs op args weights).map Argument.weight)
        ((trees.map (standing index (.indri p) doc)).map score))
      ((trees.map (standing index (.indri p) doc)).map score) := by
  refine meanOf_between laws op (weights_scoredArgs_nonneg op args (nonneg op args weights part))
    ?_ (by simpa using some_tree) ?_
  · rw [List.length_map, List.length_map, List.length_map, same_length]
  · refine List.forall_mem_map.2 (List.forall_mem_map.2 ?_)
    intro t ht
    have below := default_below laws range some_mu nonneg index doc (trees_grown t ht)
    rcases either with rfl | rfl
    · exact below.right
    · exact below.left

variable {op : Operator} {trees : List (ScoringTree (ExactNumber F))}
  {weights : List (ExactNumber F)} {current : Option DocId}

/-- The score of a combination lies between those of its arguments. -/
theorem score_between
    (grown : (ScoringTree.combine op trees weights current).GrownFrom drafts (.indri p) q)
    (some_tree : trees ≠ []) :
    ∃ s scores,
      scoreAt index (.indri p) doc (ScoringTree.combine op trees weights current) = .ok s ∧
        scoresWithDefaults index (.indri p) doc trees = .ok scores ∧ Between s scores := by
  have scored :
      scoreAt index (.indri p) doc (ScoringTree.combine op trees weights current) = .ok _ :=
    grown.supported.scoreAt_eq_standing
  cases grown with
  | combine part supported structural same_length trees_grown =>
    have trees_supported (t : ScoringTree (ExactNumber F)) (ht : t ∈ trees) :
        t.Supported (.indri p) := (trees_grown t ht).supported
    refine ⟨_, _, scored, Supported.scoresWithDefaults_eq_standing trees_supported rfl, ?_⟩
    rw [Supported.standing_combine_score trees_supported,
      combinedScore_indri supported structural]
    exact mean_between laws range some_mu nonneg index doc part same_length trees_grown some_tree
      (.inl rfl)

/-- The default score of an average lies between the default scores of its arguments. -/
theorem default_between
    (grown : (ScoringTree.combine op trees weights current).GrownFrom drafts (.indri p) q)
    (some_tree : trees ≠ []) :
    ∃ d defaults,
      defaultScore index (.indri p) doc (ScoringTree.combine op trees weights current) = .ok d ∧
        defaultScores index (.indri p) doc trees = .ok defaults ∧ Between d defaults := by
  have scored :
      defaultScore index (.indri p) doc (ScoringTree.combine op trees weights current) = .ok _ :=
    grown.supported.defaultScore_eq_standing rfl
  cases grown with
  | combine part supported structural same_length trees_grown =>
    have trees_supported (t : ScoringTree (ExactNumber F)) (ht : t ∈ trees) :
        t.Supported (.indri p) := (trees_grown t ht).supported
    refine ⟨_, _, scored, Supported.defaultScores_eq_standing trees_supported rfl, ?_⟩
    rw [Supported.standing_combine_default trees_supported,
      combinedDefault_indri supported structural]
    exact mean_between laws range some_mu nonneg index doc part same_length trees_grown some_tree
      (.inr rfl)

variable {t later : ScoringTree (ExactNumber F)}

/-- In every later state of a tree, a settled combination scores the document that it is at between
its arguments. -/
theorem score_between_of_within (grown : t.GrownFrom drafts (.indri p) q) (moved : Moved t later)
    (within : (ScoringTree.combine op trees weights (some doc)).Within later) {bound : DocId}
    (settled :
      Settled (.indri p) bound (ScoringTree.combine op trees weights (some doc))) :
    ∃ s scores,
      score index (.indri p) (ScoringTree.combine op trees weights (some doc)) = .ok s ∧
        scoresOrDefaults index (.indri p) doc trees = .ok scores ∧ Between s scores := by
  have some_tree : trees ≠ [] := by
    rintro rfl
    have matched := ((settled.current?_eq_some_iff doc).1 rfl).isMatch
    simp [matchesDoc, allMatch, anyMatches] at matched
  obtain ⟨s, scores, scored, args_scored, between⟩ :=
    (grown.of_within_later moved within).score_between laws range some_mu nonneg index doc
      (by simpa [rewindAll_eq_map] using some_tree)
  refine ⟨s, scores, ?_, ?_, between⟩
  · rw [score_eq_scoreAt settled rfl, ← scoreAt_rewind]
    exact scored
  · rw [settled.scoresOrDefaults_eq rfl, ← scoresWithDefaults_rewindAll]
    exact args_scored

/-- In every later state of a tree, the default score of a combination lies between those of its
arguments. -/
theorem default_between_of_within (grown : t.GrownFrom drafts (.indri p) q)
    (moved : Moved t later)
    (within : (ScoringTree.combine op trees weights current).Within later)
    (some_tree : trees ≠ []) :
    ∃ d defaults,
      defaultScore index (.indri p) doc (ScoringTree.combine op trees weights current) = .ok d ∧
        defaultScores index (.indri p) doc trees = .ok defaults ∧ Between d defaults := by
  obtain ⟨d, defaults, scored, args_scored, between⟩ :=
    (grown.of_within_later moved within).default_between laws range some_mu nonneg index doc
      (by simpa [rewindAll_eq_map] using some_tree)
  refine ⟨d, defaults, ?_, ?_, between⟩
  · rw [← defaultScore_rewind]
    exact scored
  · rw [← defaultScores_rewindAll]
    exact args_scored

end Grown

end GrownFrom

end ScoringTree

/-! ### Results -/

namespace Query

open ScoringTree

variable {drafts : List Draft} {q : Query (ExactNumber F)} {tree : ScoringTree (ExactNumber F)}

/-- Over any documents, if the first parameter of smoothing is positive and no weight is negative,
every document in a result has at least the default score of the whole tree.  In the state in which
it is scored, every combination that is at the document has a score between the least and the
greatest of the scores of its arguments, which are default scores where an argument is elsewhere.
The default score of a combination that has arguments lies between their default scores. -/
theorem execute_between (laws : F.PowLaws) (range : p.InRange) (some_mu : p.mu.Positive)
    (built : q.scoringTree (Index.ofDrafts drafts) (.indri p) = .ok tree)
    (nonneg : ∀ op args weights, apply op args weights ∈ q.nodes → ∀ w ∈ weights, w.Nonneg) :
    ∃ result, q.execute (Index.ofDrafts drafts) (.indri p) = .ok result ∧
      ∀ e ∈ result.entries, ∃ calls,
        let state := after (.indri p) (calls ++ [.hasMatch]) tree
        state.current? = some e.doc ∧
        score (Index.ofDrafts drafts) (.indri p) state = .ok e.score ∧
        (∃ d, defaultScore (Index.ofDrafts drafts) (.indri p) e.doc state = .ok d ∧
          Scalar.atMost d e.score = true) ∧
        (∀ op args weights, (ScoringTree.combine op args weights (some e.doc)).Within state →
          ∃ s scores,
            score (Index.ofDrafts drafts) (.indri p)
              (ScoringTree.combine op args weights (some e.doc)) = .ok s ∧
            scoresOrDefaults (Index.ofDrafts drafts) (.indri p) e.doc args = .ok scores ∧
            Between s scores) ∧
        (∀ op args weights current, (ScoringTree.combine op args weights current).Within state →
          args ≠ [] → ∃ d defaults,
            defaultScore (Index.ofDrafts drafts) (.indri p) e.doc
              (ScoringTree.combine op args weights current) = .ok d ∧
            defaultScores (Index.ofDrafts drafts) (.indri p) e.doc args = .ok defaults ∧
            Between d defaults) := by
  have grown := grownFrom_of_scoringTree built
  have tree_built := built_of_scoringTree (Index.ordered_ofDrafts drafts) built
  obtain ⟨entries, run, ranking⟩ := execute_of_ordered (Index.ordered_ofDrafts drafts) built
  refine ⟨⟨entries⟩, run, ?_⟩
  intro e he
  obtain ⟨calls, at_doc, scored⟩ := exists_calls_of_mem_execute built run he
  have moved : Moved tree (after (.indri p) (calls ++ [.hasMatch]) tree) := moved_after _ tree
  refine ⟨calls, at_doc, scored, ?_, ?_, ?_⟩
  · have matched := ((ranking.mem_docs e.doc).1 (List.mem_map_of_mem he)).2
    have score_eq := ranking.scored e he
    rw [grown.supported.scoreAt_eq_standing, Except.ok.injEq] at score_eq
    have below := grown.default_below laws range some_mu nonneg (Index.ofDrafts drafts) e.doc
    rw [Standing.smoothed_of_isMatch matched, score_eq] at below
    refine ⟨_, ?_, below.atMost⟩
    rw [← defaultScore_rewind, moved.rewind_eq, defaultScore_rewind]
    exact grown.supported.defaultScore_eq_standing rfl
  · intro op args weights within
    obtain ⟨bound, -, tracking⟩ := tree_built.tracking_after calls
    have in_settled := within
    rw [after_append] at in_settled
    exact grown.score_between_of_within laws range some_mu nonneg _ e.doc moved within
      (settled_of_within_settle rfl tracking.positioned in_settled)
  · intro op args weights current within some_arg
    exact grown.default_between_of_within laws range some_mu nonneg _ e.doc moved within some_arg

/-- With the usual parameters, for a weighted sum within an intersection. -/
theorem execute_between_default :
    let drafts : List Draft := [⟨"d0", [.setField "body" "dog"]⟩, ⟨"d1", [.setField "title" "cat"]⟩]
    let p : Indri (ExactNumber .usual) := Indri.default
    let q : Query (ExactNumber .usual) := apply .and [(term "dog" "body").scored,
      apply .wsum [(term "cat" "title").scored, (term "dog" "body").scored] [number 1, number 3]] []
    p.InRange ∧ p.mu.Positive ∧ ∃ tree result,
      q.scoringTree (Index.ofDrafts drafts) (.indri p) = .ok tree ∧
      q.execute (Index.ofDrafts drafts) (.indri p) = .ok result ∧
      ∀ e ∈ result.entries, ∃ calls d,
        defaultScore (Index.ofDrafts drafts) (.indri p) e.doc
          (after (.indri p) (calls ++ [.hasMatch]) tree) = .ok d ∧
        Scalar.atMost d e.score = true := by
  intro drafts p q
  have range : p.InRange := Indri.inRange_default
  have some_mu : p.mu.Positive := positive_ofNat (by decide : 0 < 2500)
  have nonneg : ∀ op args weights, apply op args weights ∈ q.nodes → ∀ w ∈ weights, w.Nonneg := by
    intro op args weights node
    have given : weights = [] ∨ weights = [number 1, number 3] := by
      simp [q, scored, nodes, nodesAll] at node
      tauto
    rcases given with rfl | rfl
    · simp
    · rw [List.forall_mem_cons, List.forall_mem_singleton]
      exact ⟨⟨1, by norm_num, rfl⟩, ⟨3, by norm_num, rfl⟩⟩
  let stem (s field : String) : ScoringTree (ExactNumber .usual) :=
    .leaf (Cursor.start ((Index.ofDrafts drafts).invertedList s field)) 1
  have built : q.scoringTree (Index.ofDrafts drafts) (.indri p) =
      .ok (.combine .and [stem "dog" "body",
        .combine .wsum [stem "cat" "title", stem "dog" "body"] [number 1, number 3] none]
        [Scalar.ofNat 1, Scalar.ofNat 1] none) := rfl
  obtain ⟨result, run, scores⟩ :=
    execute_between ExactFunctions.powLaws_usual range some_mu built nonneg
  refine ⟨range, some_mu, _, result, built, run, ?_⟩
  intro e he
  obtain ⟨calls, -, -, ⟨d, scored, at_most⟩, -⟩ := scores e he
  exact ⟨calls, d, scored, at_most⟩

end Query

end RankedRetrieval
