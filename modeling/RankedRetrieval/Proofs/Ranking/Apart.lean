import Mathlib.Analysis.SpecialFunctions.Pow.Real
import RankedRetrieval.Proofs.Query.Reduction
import RankedRetrieval.Proofs.Ranking.Cleanup
import RankedRetrieval.Proofs.Scoring.FoldedStanding
import RankedRetrieval.Proofs.Scoring.PlainQueries

/-!
# Folding and results

Folding repeated arguments changes neither the documents that a query finds nor their scores, under
the Boolean models and under smoothing.

## Main Definitions

* `Query.Foldable` — what is asked of a query so that folding does not change its result
* `Query.BuiltLike` — a tree that says what the trees of a query say

## Main Results

* `Query.builtLike_of_apart` — a query that is built with no repeats folded is built with them
  folded, and both trees say the same of every document
* `Query.execute_eq_executeFolding` — folding does not change the result of such a query
* `Query.executeFolding_fails` — without folding, the score of a score is not built

## Design Notes

The induction is on the tree that is built without folding.  It has a part for every argument, while
folding hides those that it drops, so that it may build where an argument cannot be built.
-/

namespace RankedRetrieval

namespace Query

open ExactNumber ScoringTree

/-! ### Queries that can be folded -/

variable {F : ExactFunctions} {index : Index} {model : RetrievalModel (ExactNumber F)}
  {q : Query (ExactNumber F)}

/-- What is asked of a query so that folding does not change its result. -/
structure Foldable (q : Query (ExactNumber F)) : Prop where
  /-- Each argument of a weighted operator has a weight, and no other operator has weights. -/
  lengths : ∀ op args weights, apply op args weights ∈ q.nodes →
    weights.length = if op.isWeighted then args.length else 0
  /-- It is made of bare words. -/
  bare : ∀ leaf ∈ q.leaves, Bare leaf.1 ∧ Bare leaf.2
  /-- The weights of a weighted sum have a positive sum. -/
  positive : ∀ args weights, apply .wsum args weights ∈ q.nodes → args ≠ [] →
    (Scalar.sum weights).Positive

namespace Foldable

variable {op : Operator} {args : List (Query (ExactNumber F))} {weights : List (ExactNumber F)}

theorem of_apply (foldable : Foldable (Query.apply op args weights)) :
    ∀ q ∈ args, Foldable q := by
  intro q hq
  have inside {part : Query (ExactNumber F)} (member : part ∈ q.nodes) :
      part ∈ (Query.apply op args weights).nodes :=
    List.mem_cons_of_mem _ (nodes_subset_nodesAll hq member)
  exact {
    lengths := fun op args weights part => foldable.lengths op args weights (inside part)
    bare := fun leaf hleaf => foldable.bare leaf (leaves_subset_leavesAll hq hleaf)
    positive := fun args weights part => foldable.positive args weights (inside part) }

/-- An operator that is not weighted has no weights. -/
theorem weights_eq_nil (foldable : Foldable (Query.apply op args weights))
    (unweighted : op.isWeighted = false) : weights = [] := by
  have length_eq := foldable.lengths op args weights (mem_nodes_self _)
  rw [unweighted] at length_eq
  exact List.length_eq_zero_iff.1 length_eq

/-- Only combinations have weights. -/
theorem plain (foldable : Foldable q) : Plain q := by
  refine .of_parts foldable.bare fun op args weights part merges => ?_
  have length_eq := foldable.lengths op args weights part
  have unweighted : op.isWeighted = false := by
    rcases merges with positional | ⟨rfl, -⟩
    · cases op <;> first | rfl | simp [Operator.isPositional] at positional
    · rfl
  rw [unweighted] at length_eq
  exact List.length_eq_zero_iff.1 length_eq

/-- The arguments of a foldable query may be folded into sums of their weights. -/
theorem standing_foldable (foldable : Foldable (Query.apply op args weights)) :
    Standing.Foldable op (args.map fun q => (q.repeatKey?, q)) weights where
  each := by
    rintro rfl f hf
    obtain rfl := foldable.weights_eq_nil rfl
    rcases (Argument.weight_of_mem_ofWeights hf).1 with own | one
    · simp at own
    · rw [one]
      exact positive_ofNat Nat.one_pos
  sum := by
    rintro rfl some_item
    have lengths : weights.length = args.length :=
      foldable.lengths .wsum args weights (mem_nodes_self _)
    rw [Argument.weights_ofWeights (by rw [lengths, List.length_map])]
    exact foldable.positive args weights (mem_nodes_self _) fun none =>
      some_item (by rw [none, List.map_nil])

end Foldable

/-! ### Repeats -/

/-- No score of a scored query is negative under smoothing. -/
theorem notNegative_of_repeatKey? {p : Indri (ExactNumber F)} (range : p.InRange)
    {tree : ScoringTree (ExactNumber F)} (built : q.scoringTree index (.indri p) = .ok tree)
    (repeated : q.repeatKey?.isSome) (doc : DocId) :
    (q.standing index (.indri p) doc).smoothed.NotNegative ∧
      (q.standing index (.indri p) doc).default.NotNegative := by
  obtain ⟨part, rest, weights, list, rfl, -, rfl⟩ := exists_scoredPart? repeated built
  rw [standing, built]
  obtain ⟨tf, smoothed_eq⟩ := exists_smoothed_leaf index p doc (Cursor.start list) 1
  dsimp only
  rw [smoothed_eq]
  exact ⟨(termScore_spec range tf _ _ _).1, (termScore_spec range 0 _ _ _).1⟩

/-- What a combination makes of arguments that can be built is not changed by folding. -/
theorem combine_scoredArgs (adds : F.PowAdds) (exact_model : model.BooleanOrIndri) {op : Operator}
    {args : List (Query (ExactNumber F))} {weights : List (ExactNumber F)}
    (supported : model.supports op = true) (not_score : op ≠ .score)
    (foldable : Foldable (apply op args weights))
    (args_built : ∀ q ∈ args, ∃ t, q.scoringTree index model = .ok t) (doc : DocId) :
    Standing.combine model op ((scoredArgs op args weights).map Argument.weight)
        ((scoredArgs op args weights).map fun f => f.item.standing index model doc) =
      Standing.combine model op
        ((argsFoldedUnder Operator.neverFolds op args weights).map Argument.weight)
        ((argsFoldedUnder Operator.neverFolds op args weights).map fun f =>
          f.item.standing index model doc) := by
  refine Standing.combine_forOperator adds exact_model supported not_score ?agreeing
    foldable.standing_foldable ?not_negative
  case agreeing =>
    intro e he repeated member keyed same
    obtain ⟨q, hq, rfl⟩ := List.mem_map.1 he
    obtain ⟨r, hr, rfl⟩ := List.mem_map.1 member
    obtain ⟨t, built⟩ := args_built q hq
    obtain ⟨t', other_built⟩ := args_built r hr
    exact (foldable.of_apply q hq).plain.standing_eq_of_repeatKey? (foldable.of_apply r hr).plain
      built other_built keyed same doc
  case not_negative =>
    intro smooths e he keyed
    obtain ⟨q, hq, rfl⟩ := List.mem_map.1 he
    obtain ⟨t, built⟩ := args_built q hq
    rcases exact_model with rfl | rfl | ⟨p, range, rfl⟩
    · simp [RetrievalModel.smoothsMissing] at smooths
    · simp [RetrievalModel.smoothsMissing] at smooths
    · exact notNegative_of_repeatKey? range built keyed doc

/-! ### Trees -/

/-- A supported tree that says of every document what the trees of a query say, for whatever number
of arguments the query is built. -/
structure BuiltLike (index : Index) (model : RetrievalModel (ExactNumber F))
    (q : Query (ExactNumber F)) (u : ScoringTree (ExactNumber F)) : Prop where
  /-- All of its operators are supported. -/
  supported : u.Supported model
  /-- The query can be built, and its trees say the same. -/
  build : ∀ n, ∃ t, q.build index model n = .ok t ∧
    ∀ doc, t.standing index model doc = u.standing index model doc

namespace BuiltLike

variable {u : ScoringTree (ExactNumber F)}

theorem standing_eq (like : BuiltLike index model q u) (doc : DocId) :
    u.standing index model doc = q.standing index model doc := by
  obtain ⟨t, built, same⟩ := like.build 1
  rw [Query.standing, scoringTree, built]
  exact (same doc).symm

/-- How often a leaf is asked for does not matter. -/
theorem leaf (exact_model : model.BooleanOrIndri) {p : Query (ExactNumber F)}
    (found : q.scoredPart? = some p) (supported : model.supports .score = true)
    {list : InvertedList} (evaluated : p.positional index = .ok list) (qtf : Nat) :
    BuiltLike index model q (.leaf (Cursor.start list) qtf) where
  supported := .leaf supported
  build n := by
    refine ⟨.leaf (Cursor.start list) n, ?_, fun doc => ?_⟩
    · rw [build_of_scoredPart? found, if_pos supported, scoringLeaf, evaluated]
      rfl
    · rcases exact_model with rfl | rfl | ⟨p, -, rfl⟩ <;> rfl

/-- A combination may be built of all arguments or of those that are left by folding. -/
theorem combine (adds : F.PowAdds) (exact_model : model.BooleanOrIndri) {op : Operator}
    {args : List (Query (ExactNumber F))} {weights : List (ExactNumber F)}
    {us : List (ScoringTree (ExactNumber F))} (structural : op.isPositional = false)
    (not_score : op ≠ .score) (supported : model.supports op = true)
    (foldable : Foldable (Query.apply op args weights))
    (related : List.Forall₂ (fun f u => BuiltLike index model f.item u)
      (argsFoldedUnder Operator.neverFolds op args weights) us) :
    BuiltLike index model (Query.apply op args weights)
      (.combine op us ((argsFoldedUnder Operator.neverFolds op args weights).map Argument.weight)
        none) := by
  have parts_supported : ∀ u ∈ us, u.Supported model := by
    intro u hu
    obtain ⟨f, -, like⟩ := exists_of_forall₂ related.flip hu
    exact like.supported
  -- every argument has a tree of its own, whether folding drops it or not
  have args_built : ∀ q ∈ args, ∀ n, ∃ t, q.build index model n = .ok t ∧ t.Supported model ∧
      ∀ doc, t.standing index model doc = q.standing index model doc := by
    intro q hq n
    have listed : (q.repeatKey?, q) ∈ args.map fun q => (q.repeatKey?, q) :=
      List.mem_map_of_mem hq
    obtain ⟨f, hf, entry_eq⟩ := Argument.exists_mem_ofWeights listed weights
    obtain rfl : f.item = q := congrArg Prod.snd entry_eq
    obtain ⟨u, -, like⟩ := exists_of_forall₂ related hf
    obtain ⟨t, built, same⟩ := like.build n
    exact ⟨t, built, holds_of_build givenByBuilding_supported f.item n built,
      fun doc => (same doc).trans (like.standing_eq doc)⟩
  refine ⟨.combine supported not_score parts_supported, fun n => ?_⟩
  obtain ⟨trees, trees_built⟩ := exists_forall₂ (scoredArgs op args weights)
    fun f hf => args_built f.item (mem_of_scoredArg hf).1 f.count
  refine ⟨.combine op trees ((scoredArgs op args weights).map Argument.weight) none,
    (build_structural_iff structural not_score).2
      ⟨supported, trees, trees_built.imp fun _ _ of_arg => of_arg.1, rfl⟩, fun doc => ?_⟩
  have trees_supported : ∀ t ∈ trees, t.Supported model := by
    intro t ht
    obtain ⟨f, -, of_arg⟩ := exists_of_forall₂ trees_built.flip ht
    exact of_arg.2.1
  rw [Supported.standing_combine trees_supported, Supported.standing_combine parts_supported,
    map_eq_of_forall₂ (trees_built.imp fun _ _ of_arg => of_arg.2.2 doc),
    map_eq_of_forall₂ (related.imp fun _ _ like => like.standing_eq doc)]
  exact combine_scoredArgs adds exact_model supported not_score foldable
    (fun q hq => (args_built q hq 1).imp fun _ of_arg => of_arg.1) doc

end BuiltLike

/-- A query that is built with no repeats folded is built with them folded, and both trees say the
same of every document. -/
theorem builtLike_of_apart (adds : F.PowAdds) (exact_model : model.BooleanOrIndri)
    (foldable : Foldable q) {u : ScoringTree (ExactNumber F)}
    (built : q.buildFolding Operator.neverFolds index model 1 = .ok u) :
    BuiltLike index model q u := by
  let R (q : Query (ExactNumber F)) (_ : Nat) (u : ScoringTree (ExactNumber F)) : Prop :=
    Foldable q → BuiltLike index model q u
  refine of_buildFolding (R := R) ?leaf ?combine q built foldable
  case leaf =>
    intro q p qtf list found supported evaluated _
    exact .leaf exact_model found supported evaluated qtf
  case combine =>
    intro op args weights qtf us structural not_score supported related foldable
    refine .combine adds exact_model structural not_score supported foldable ?_
    exact related.imp fun f u both => both.2 (foldable.of_apply f.item both.1)

/-! ### Results -/

/-- Over ordered postings, executing a query that has arguments yields the ranking of its tree,
whatever operators fold repeats. -/
theorem executeFolding_of_ordered {folds : Operator → Bool}
    (ordered : ∀ stem field, Ordered (index.postings stem field))
    (some_arg : ¬ q.isChildless = true)
    {u : ScoringTree (ExactNumber F)} (built : q.buildFolding folds index model 1 = .ok u) :
    ∃ entries, q.executeFolding folds index model = .ok ⟨entries⟩ ∧
      Ranking index model 0 u entries := by
  have u_built : u.Built model := holds_of_buildFolding (givenByBuilding_built ordered) built
  obtain ⟨entries, run, ranking⟩ := scoreMatches_ranking u_built.positioned
    (u_built.scoreAt_ok index) (Nat.lt_succ_self u.remaining)
  refine ⟨entries, ?_, ranking⟩
  rw [executeFolding, if_neg some_arg, built]
  simp only [run, Except.map]

/-- Over any documents and under the Boolean models and smoothing, folding repeats does not change
the result of a query that is put together argument by argument of bare words and can be built
without folding: the same documents have the same scores.  The weights of weighted sums need not
be positive, but their sum has to be. -/
theorem execute_eq_executeFolding (adds : F.PowAdds) (exact_model : model.BooleanOrIndri)
    {drafts : List Draft} (appended : Appended q)
    (bare : ∀ leaf ∈ q.leaves, Bare leaf.1 ∧ Bare leaf.2)
    (positive : ∀ args weights, apply .wsum args weights ∈ q.nodes → args ≠ [] →
      (Scalar.sum weights).Positive)
    {u : ScoringTree (ExactNumber F)}
    (built : q.buildFolding Operator.neverFolds (Index.ofDrafts drafts) model 1 = .ok u) :
    ∃ result, q.execute (Index.ofDrafts drafts) model = .ok result ∧
      q.executeFolding Operator.neverFolds (Index.ofDrafts drafts) model = .ok result := by
  have ordered := Index.ordered_ofDrafts drafts
  have foldable : Foldable q := {
    lengths := fun _ _ _ part => appended.length_weights_eq part
    bare := bare
    positive := positive }
  by_cases childless : q.isChildless = true
  · exact ⟨ScoreList.empty, if_pos childless, if_pos childless⟩
  have like := builtLike_of_apart adds exact_model foldable built
  obtain ⟨t, t_built, same⟩ := like.build 1
  obtain ⟨entries, run, ranking⟩ := execute_of_ordered ordered t_built
  obtain ⟨others, other_run, other_ranking⟩ := executeFolding_of_ordered ordered childless built
  have same_entries : others = entries :=
    ranking.eq_of_standing other_ranking (supported_of_scoringTree t_built) like.supported
      fun doc => (same doc).symm
  exact ⟨⟨entries⟩, run, same_entries ▸ other_run⟩

/-- A term is repeated under an intersection and under a weighted sum with a negative weight. -/
theorem execute_eq_executeFolding_default :
    let drafts : List Draft :=
      [⟨"d0", [.setField "body" "dog cat"]⟩, ⟨"d1", [.setField "body" "cat"]⟩]
    let dog : Query (ExactNumber .usual) := term "dog" "body"
    let inner := (((apply .wsum [] []).append dog (some (number 3))).append (term "cat" "body")
      (some (number 2))).append dog (some (number (-1)))
    let q := ((((apply .and [] []).append dog none).append inner none).append dog none)
    let model : RetrievalModel (ExactNumber .usual) := .indri Indri.default
    ∃ result, q.execute (Index.ofDrafts drafts) model = .ok result ∧
      q.executeFolding Operator.neverFolds (Index.ofDrafts drafts) model = .ok result := by
  intro drafts dog inner q model
  have in_range : model.BooleanOrIndri := .inr (.inr ⟨Indri.default, Indri.inRange_default, rfl⟩)
  have appended : Appended q := by
    have inner_appended : Appended inner :=
      .append (.append (.append (.start .wsum) .term _) .term _) .term _
    exact .append (.append (.append (.start .and) .term none) inner_appended none) .term none
  have bare : ∀ leaf ∈ q.leaves, Bare leaf.1 ∧ Bare leaf.2 := by
    have words : ∀ leaf ∈ [("dog", "body"), ("dog", "body"), ("cat", "body"), ("dog", "body"),
      ("dog", "body")], Bare leaf.1 ∧ Bare leaf.2 := by decide
    exact words
  have positive : ∀ args weights, apply .wsum args weights ∈ q.nodes → args ≠ [] →
      (Scalar.sum weights).Positive := by
    intro args weights node _
    have weights_eq : weights = [number 3, number 2, number (-1)] := by
      simp [q, inner, dog, append, under, scored, nodes, nodesAll, isPositional,
        Operator.isPositional, Operator.isWeighted] at node
      exact node.2
    rw [weights_eq]
    exact ⟨0 + 3 + 2 + -1, by norm_num, rfl⟩
  exact execute_eq_executeFolding ExactFunctions.powAdds_usual in_range appended bare positive rfl

theorem product_replicate (x : ℝ) (n : Nat) :
    Scalar.product (List.replicate n (number x : ExactNumber F)) = number (x ^ n) := by
  induction n with
  | zero =>
    rw [pow_zero, ← Nat.cast_one]
    rfl
  | succ n ih => rw [List.replicate_succ, Scalar.product_cons, ih, number_mul, pow_succ']

/-- The geometric mean of equal numbers under equal weights multiplies their roots. -/
theorem geometricMean_replicate {m n : Nat} (some_weight : 0 < m) (some_arg : 0 < n) (x : ℝ) :
    geometricMean (List.replicate n (Scalar.ofNat m)) (List.replicate n (number x)) =
      (number ((x ^ (1 / n : ℝ)) ^ n) : ExactNumber .usual) := by
  have mean := geometricMean_even some_weight (fun _ : Unit => (number x : ExactNumber .usual))
    (List.replicate n ())
  rw [List.map_replicate, List.map_replicate, List.map_replicate, List.length_replicate] at mean
  rw [mean, ← product_replicate, ofNat_eq, ofNat_eq,
    number_div _ (Nat.cast_ne_zero.2 some_arg.ne'), Nat.cast_one]
  rfl

/-- With a share of the collection above one the score of a term can be negative, and then its
powers do not multiply. -/
theorem execute_ne_executeFolding :
    let drafts : List Draft := [⟨"d0", [.setField "body" "dog"]⟩, ⟨"d1", [.setField "body" "cat"]⟩]
    let dog : Query (ExactNumber .usual) := term "dog" "body"
    let q := ((apply .and [] []).append dog none).append dog none
    let model : RetrievalModel (ExactNumber .usual) := .indri ⟨number 0, number 3⟩
    ExactFunctions.usual.PowAdds ∧ Appended q ∧ (∀ leaf ∈ q.leaves, Bare leaf.1 ∧ Bare leaf.2) ∧
      (∀ args weights, apply .wsum args weights ∈ q.nodes → args ≠ [] →
        (Scalar.sum weights).Positive) ∧
      ∃ result apart, q.execute (Index.ofDrafts drafts) model = .ok result ∧
        q.executeFolding Operator.neverFolds (Index.ofDrafts drafts) model = .ok apart ∧
        (∃ e ∈ result.entries, e.doc = 0 ∧ e.score = number (-1 / 2)) ∧
        ∃ e ∈ apart.entries, e.doc = 0 ∧ e.score = number 0 := by
  intro drafts dog q model
  have appended : Appended q := .append (.append (.start .and) .term none) .term none
  have bare : ∀ leaf ∈ q.leaves, Bare leaf.1 ∧ Bare leaf.2 := by
    have words : ∀ leaf ∈ [("dog", "body"), ("dog", "body")], Bare leaf.1 ∧ Bare leaf.2 := by decide
    exact words
  have no_sum : ∀ args weights, apply .wsum args weights ∈ q.nodes → args ≠ [] →
      (Scalar.sum weights).Positive := by
    intro args weights node
    simp [q, dog, append, under, scored, nodes, nodesAll, isPositional, Operator.isPositional,
      Operator.isWeighted] at node
  have found : (Index.ofDrafts drafts).postings "dog" "body" = [⟨0, [0]⟩] := by decide +kernel
  have figures : ((Index.ofDrafts drafts).fieldLength "body" 0,
      (Index.ofDrafts drafts).sumFieldLengths "body") = (1, 2) := by
    decide +kernel
  simp only [Prod.mk.injEq] at figures
  obtain ⟨fieldLength, sumFieldLengths⟩ := figures
  let stem (n : Nat) : ScoringTree (ExactNumber .usual) :=
    .leaf (Cursor.start ((Index.ofDrafts drafts).invertedList "dog" "body")) n
  let t : ScoringTree (ExactNumber .usual) :=
    .combine .and [stem 2] [Scalar.ofNat 1 + Scalar.ofNat 1] none
  let u : ScoringTree (ExactNumber .usual) :=
    .combine .and [stem 1, stem 1] [Scalar.ofNat 1, Scalar.ofNat 1] none
  have built : q.scoringTree (Index.ofDrafts drafts) model = .ok t := rfl
  have apart_built :
      q.buildFolding Operator.neverFolds (Index.ofDrafts drafts) model 1 = .ok u := rfl
  have matched (n : Nat) : (stem n).matchesDoc model 0 = true := by
    simp [stem, matchesDoc, Cursor.start, Index.invertedList, found]
  have term_score : (⟨number 0, number 3⟩ : Indri (ExactNumber .usual)).termScore
      (Scalar.ofNat 1) (Scalar.ofNat 1) (Scalar.ofNat 2) (Scalar.ofNat 1) = number (-1 / 2) := by
    have some_words : Scalar.less (number 0 : ExactNumber .usual) (number 2) = true :=
      (less_number _ _).2 two_pos
    simp [Indri.termScore, some_words, number_div]
    norm_num
  have scored (n : Nat) : scoreAt (Index.ofDrafts drafts) model 0 (stem n) =
      .ok (number (-1 / 2)) := by
    simp [stem, scoreAt, leafScoreAt, postingScore, Cursor.start, Index.invertedList, found, model,
      fieldLength, sumFieldLengths, -ofNat_eq]
    exact term_score
  have t_matched : t.matchesDoc model 0 = true := by
    simp [t, matchesDoc, anyMatches, asksForAll, matched, model, RetrievalModel.smoothsMissing]
  have u_matched : u.matchesDoc model 0 = true := by
    simp [u, matchesDoc, anyMatches, asksForAll, matched, model, RetrievalModel.smoothsMissing]
  have t_scored : scoreAt (Index.ofDrafts drafts) model 0 t = .ok (number (-1 / 2)) := by
    have mean := geometricMean_replicate two_pos one_pos (-1 / 2)
    rw [Nat.cast_one, div_one, Real.rpow_one, pow_one] at mean
    have sum_eq : (Scalar.ofNat 1 + Scalar.ofNat 1 : ExactNumber .usual) = Scalar.ofNat 2 :=
      (Scalar.ExactArithmetic.ofNat_add 1 1).symm
    simpa [t, scoreAt, scoresWithDefaults, scored, matched, model, Except.map, sum_eq, -ofNat_eq]
      using mean
  have u_scored : scoreAt (Index.ofDrafts drafts) model 0 u = .ok (number 0) := by
    have mean := geometricMean_replicate one_pos two_pos (-1 / 2)
    have right_angle : (1 / (2 : ℕ) * Real.pi : ℝ) = Real.pi / 2 := by
      rw [Nat.cast_ofNat]
      ring
    rw [Real.rpow_def_of_neg (by norm_num), right_angle, Real.cos_pi_div_two, mul_zero,
      zero_pow two_ne_zero] at mean
    simpa [u, scoreAt, scoresWithDefaults, scored, matched, model, Except.map, -ofNat_eq] using mean
  obtain ⟨entries, run, ranking⟩ := execute_of_ordered (Index.ordered_ofDrafts drafts) built
  obtain ⟨others, other_run, other_ranking⟩ :=
    executeFolding_of_ordered (Index.ordered_ofDrafts drafts) (by decide) apart_built
  exact ⟨ExactFunctions.powAdds_usual, appended, bare, no_sum, ⟨entries⟩, ⟨others⟩, run, other_run,
    ranking.exists_entry t_matched t_scored, other_ranking.exists_entry u_matched u_scored⟩

/-- Folding drops the score of a score, which is written as what is scored, before anything is built
of it. -/
theorem executeFolding_fails (index : Index) (model : RetrievalModel (ExactNumber F))
    (supported : model.supports .and = true) :
    let dog : Query (ExactNumber F) := term "dog" "body"
    let q := ((apply .and [] []).append dog none).append
      ((apply .score [] []).append dog.scored none) none
    Appended q ∧ (∃ t, q.scoringTree index model = .ok t) ∧
      q.executeFolding Operator.neverFolds index model = .error (.notPositional "dog.body") := by
  intro dog q
  have appended : Appended q :=
    .append (.append (.start .and) .term none)
      (.append (.start .score) (.append (.start .score) .term none) none) none
  refine ⟨appended, ?_⟩
  cases model with
  | unrankedBoolean | rankedBoolean | indri p => exact ⟨⟨_, rfl⟩, rfl⟩
  | bm25 p | letor p p' => simp [RetrievalModel.supports] at supported

end Query

end RankedRetrieval
