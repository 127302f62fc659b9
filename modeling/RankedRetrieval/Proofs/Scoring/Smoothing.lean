import RankedRetrieval.Proofs.Ranking.Results
import RankedRetrieval.Proofs.Scoring.TermScores

/-!
# Smoothed scores

Two-stage smoothing scores every term of a query for every document in the result, whether the
document holds the term or not.  It divides by the length of the field, to which the first parameter
is added, so a document without the field is a division by zero if that parameter is zero.

## Main Definitions

* `ScoringTree.FilledAt` — a tree that never divides by zero for a document

## Main Results

* `ScoringTree.geometricMean_spec`, `ScoringTree.arithmeticMean_spec` — a mean is a number when all
  scores are, and is not negative then
* `ScoringTree.GrownFrom.smoothed_spec` — a score is a number unless it is divided by zero
* `Query.execute_isNumber_iff_filled` — which scores of a result are numbers

## Design Notes

A power of what is not a number is not a number here, not even if the exponent is zero: a score that
is a number shows that all leaves have one.  Weights are not negative, so that a mean of scores is
not negative and has powers itself.
-/

namespace RankedRetrieval

open ExactNumber

variable {F : ExactFunctions}

/-- What holds place by place of a pair of lists. -/
theorem forall_mem_zipWith_iff {β γ δ : Type} {f : β → γ → δ} {holds : δ → Prop} {first : β → Prop}
    {xs : List β} {ys : List γ} (same_length : xs.length = ys.length)
    (holds_iff : ∀ x ∈ xs, ∀ y ∈ ys, holds (f x y) ↔ first x) :
    (∀ z ∈ List.zipWith f xs ys, holds z) ↔ ∀ x ∈ xs, first x := by
  induction xs generalizing ys with
  | nil => simp
  | cons x xs ih =>
    cases ys with
    | nil => simp at same_length
    | cons y ys =>
      have others := ih (Nat.succ.inj same_length) fun x hx y hy =>
        holds_iff x (List.mem_cons_of_mem _ hx) y (List.mem_cons_of_mem _ hy)
      rw [List.zipWith_cons_cons, List.forall_mem_cons, List.forall_mem_cons, others,
        holds_iff x List.mem_cons_self y List.mem_cons_self]

namespace ScoringTree

/-! ### Means -/

section Means

variable {weights scores : List (ExactNumber F)}

theorem length_shares : (shares weights).length = weights.length := by
  rw [shares]
  split <;> rw [List.length_map]

/-- Weights that are not negative are scaled to such shares. -/
theorem shares_nonneg (nonneg : ∀ w ∈ weights, w.Nonneg) : ∀ s ∈ shares weights, s.Nonneg := by
  have sum_nonneg : (Scalar.sum weights).Nonneg := by
    rw [Scalar.sum_eq_total]
    exact Nonneg.total nonneg
  rw [shares]
  split
  · refine List.forall_mem_map.2 fun w hw => ?_
    have some_weight : 0 < weights.length := List.length_pos_of_mem hw
    exact (nonneg_ofNat 1).div (nonneg_ofNat _) (positive_ofNat some_weight).ne_zero
  · rename_i positive
    refine List.forall_mem_map.2 fun w hw => (nonneg w hw).div sum_nonneg fun zero => ?_
    rw [zero, ofNat_eq, Nat.cast_zero, atMost_number] at positive
    exact positive le_rfl

/-- A geometric mean is a number when all scores are, and is not negative then. -/
theorem geometricMean_spec (powers : F.PowExists) (nonneg : ∀ w ∈ weights, w.Nonneg)
    (same_length : scores.length = weights.length) (not_negative : ∀ x ∈ scores, x.NotNegative) :
    (geometricMean weights scores).NotNegative ∧
      ((geometricMean weights scores).IsNumber ↔ ∀ x ∈ scores, x.IsNumber) := by
  have exponents := shares_nonneg nonneg
  have lengths : scores.length = (shares weights).length := same_length.trans length_shares.symm
  have number_iff : (geometricMean weights scores).IsNumber ↔ ∀ x ∈ scores, x.IsNumber := by
    rw [geometricMean, isNumber_product_iff]
    exact forall_mem_zipWith_iff lengths fun x hx y hy =>
      isNumber_pow_iff powers (not_negative x hx) (exponents y hy)
  refine ⟨fun number => ?_, number_iff⟩
  have scores_nonneg : ∀ x ∈ scores, x.Nonneg :=
    fun x hx => not_negative x hx (number_iff.1 number x hx)
  rw [geometricMean]
  refine Nonneg.product ((forall_mem_zipWith_iff lengths fun x hx y hy => ?_).2 scores_nonneg)
  have x_nonneg := scores_nonneg x hx
  exact iff_of_true (x_nonneg.pow powers (exponents y hy)) x_nonneg

/-- An arithmetic mean is a number when all scores are, and is not negative then. -/
theorem arithmeticMean_spec (nonneg : ∀ w ∈ weights, w.Nonneg)
    (same_length : scores.length = weights.length) (not_negative : ∀ x ∈ scores, x.NotNegative) :
    (arithmeticMean weights scores).NotNegative ∧
      ((arithmeticMean weights scores).IsNumber ↔ ∀ x ∈ scores, x.IsNumber) := by
  have factors := shares_nonneg nonneg
  have lengths : scores.length = (shares weights).length := same_length.trans length_shares.symm
  have number_iff : (arithmeticMean weights scores).IsNumber ↔ ∀ x ∈ scores, x.IsNumber := by
    rw [arithmeticMean, isNumber_total_iff, List.zipWith_comm]
    refine forall_mem_zipWith_iff lengths fun x _ y hy => ?_
    rw [isNumber_mul_iff, and_iff_right (factors y hy).isNumber]
  refine ⟨fun number => ?_, number_iff⟩
  have scores_nonneg : ∀ x ∈ scores, x.Nonneg :=
    fun x hx => not_negative x hx (number_iff.1 number x hx)
  rw [arithmeticMean, List.zipWith_comm]
  refine Nonneg.total ((forall_mem_zipWith_iff lengths fun x hx y hy => ?_).2 scores_nonneg)
  have x_nonneg := scores_nonneg x hx
  exact iff_of_true ((factors y hy).mul x_nonneg) x_nonneg

end Means

/-! ### Scores of grown trees -/

section Trees

variable {index : Index} {p : Indri (ExactNumber F)} {doc : DocId}

/-- Smoothing never divides by zero when a tree is scored for a document. -/
def FilledAt (index : Index) (p : Indri (ExactNumber F)) (doc : DocId)
    (t : ScoringTree (ExactNumber F)) : Prop :=
  ∀ cursor qtf, (leaf cursor qtf).Within t →
    Scalar.ofNat (index.fieldLength cursor.list.field doc) + p.mu ≠ number 0

theorem filledAt_leaf_iff {cursor : Cursor} {qtf : Nat} : (leaf cursor qtf).FilledAt index p doc ↔
    Scalar.ofNat (index.fieldLength cursor.list.field doc) + p.mu ≠ number 0 := by
  constructor
  · intro filled
    exact filled cursor qtf (.self _)
  · intro divisor other other_qtf within
    obtain ⟨rfl, rfl⟩ := ScoringTree.leaf.inj (within_leaf_iff.1 within)
    exact divisor

theorem filledAt_combine_iff {op : Operator} {args : List (ScoringTree (ExactNumber F))}
    {weights : List (ExactNumber F)} {current : Option DocId} :
    (combine op args weights current).FilledAt index p doc ↔
      ∀ t ∈ args, t.FilledAt index p doc := by
  constructor
  · intro filled t ht cursor qtf within
    exact filled cursor qtf (.arg ht within)
  · intro args_filled cursor qtf within
    rcases within_combine_iff.1 within with same | ⟨t, ht, within⟩
    · simp at same
    · exact args_filled t ht cursor qtf within

/-- A smoothed score is a number when nothing is divided by zero, and is not negative then. -/
theorem termScore_spec (range : p.InRange) (tf ctf total docLength : Nat) :
    (p.termScore (Scalar.ofNat tf) (Scalar.ofNat ctf) (Scalar.ofNat total)
      (Scalar.ofNat docLength)).NotNegative ∧
      ((p.termScore (Scalar.ofNat tf) (Scalar.ofNat ctf) (Scalar.ofNat total)
        (Scalar.ofNat docLength)).IsNumber ↔ Scalar.ofNat docLength + p.mu ≠ number 0) := by
  by_cases divisor : Scalar.ofNat docLength + p.mu = number 0
  · rw [Indri.termScore_eq_notANumber divisor]
    exact ⟨fun number => absurd number not_isNumber_notANumber,
      iff_of_false not_isNumber_notANumber fun some_divisor => some_divisor divisor⟩
  · have nonneg := Indri.termScore_nonneg range tf ctf total divisor
    exact ⟨nonneg.notNegative, iff_of_true nonneg.isNumber divisor⟩

/-- A leaf scores every document as a term that occurs in it some number of times. -/
theorem exists_smoothed_leaf (index : Index) (p : Indri (ExactNumber F)) (doc : DocId)
    (cursor : Cursor) (qtf : Nat) : ∃ tf : Nat,
    ((leaf cursor qtf).standing index (.indri p) doc).smoothed =
      p.termScore (Scalar.ofNat tf) (Scalar.ofNat cursor.list.ctf)
        (Scalar.ofNat (index.sumFieldLengths cursor.list.field))
        (Scalar.ofNat (index.fieldLength cursor.list.field doc)) := by
  rw [Standing.smoothed, standing_isMatch, matchesDoc]
  cases found : cursor.list.postings.find? fun posting => posting.doc = doc with
  | none =>
    have unmatched : (cursor.list.postings.any fun posting => posting.doc = doc) = false :=
      List.any_eq_false.2 fun posting hp => List.find?_eq_none.1 found posting hp
    rw [unmatched]
    exact ⟨0, rfl⟩
  | some posting =>
    have same : posting.doc = doc := by simpa using List.find?_some found
    have matched : (cursor.list.postings.any fun posting => posting.doc = doc) = true :=
      List.any_eq_true.2 ⟨posting, List.mem_of_find?_eq_some found, decide_eq_true same⟩
    rw [matched, if_pos rfl, standing, scoreAt, leafScoreAt, found, ← same]
    exact ⟨posting.tf, rfl⟩

variable {drafts : List Draft} {q : Query (ExactNumber F)} {t : ScoringTree (ExactNumber F)}

/-- The operators of smoothing. -/
theorem operator_of_supports_indri {op : Operator}
    (supported : (RetrievalModel.indri p).supports op) (structural : op ≠ .score) :
    op = .and ∨ op = .wand ∨ op = .wsum := by
  cases op with
  | and => exact .inl rfl
  | wand => exact .inr (.inl rfl)
  | wsum => exact .inr (.inr rfl)
  | score => exact absurd rfl structural
  | syn | near | window | or | sum => simp [RetrievalModel.supports] at supported

/-- The mean that an operator takes of the scores of its arguments. -/
def meanOf {α : Type} [Scalar α] (op : Operator) (weights scores : List α) : α :=
  if op = .wsum then arithmeticMean weights scores else geometricMean weights scores

theorem combinedScore_indri {op : Operator} (supported : (RetrievalModel.indri p).supports op)
    (structural : op ≠ .score) (weights : List (ExactNumber F))
    (vs : List (Standing (ExactNumber F))) :
    Standing.combinedScore (.indri p) op weights vs =
      meanOf op weights (vs.map Standing.smoothed) := by
  rcases operator_of_supports_indri supported structural with rfl | rfl | rfl <;> rfl

theorem combinedDefault_indri {op : Operator} (supported : (RetrievalModel.indri p).supports op)
    (structural : op ≠ .score) (weights : List (ExactNumber F))
    (vs : List (Standing (ExactNumber F))) :
    Standing.combinedDefault (.indri p) op weights vs =
      meanOf op weights (vs.map Standing.default) := by
  rcases operator_of_supports_indri supported structural with rfl | rfl | rfl <;> rfl

/-- Either mean is a number when all scores are, and is not negative then. -/
theorem meanOf_spec (powers : F.PowExists) (op : Operator) {weights scores : List (ExactNumber F)}
    (nonneg : ∀ w ∈ weights, w.Nonneg) (same_length : scores.length = weights.length)
    (not_negative : ∀ x ∈ scores, x.NotNegative) :
    (meanOf op weights scores).NotNegative ∧
      ((meanOf op weights scores).IsNumber ↔ ∀ x ∈ scores, x.IsNumber) := by
  rw [meanOf]
  split
  · exact arithmeticMean_spec nonneg same_length not_negative
  · exact geometricMean_spec powers nonneg same_length not_negative

/-- Weights that are not negative are not made so by folding. -/
theorem weights_scoredArgs_nonneg (op : Operator) (args : List (Query (ExactNumber F)))
    {weights : List (ExactNumber F)} (nonneg : ∀ w ∈ weights, w.Nonneg) :
    ∀ w ∈ (Query.scoredArgs op args weights).map Argument.weight, w.Nonneg := by
  intro w hw
  obtain ⟨f, hf, rfl⟩ := List.mem_map.1 hw
  exact Argument.weight_of_mem_forOperator (nonneg_ofNat 1)
    (fun _ _ first second => first.add second) nonneg hf

/-- Neither a smoothed score nor a default score is negative.  Each is a number unless one of the
leaves divides by zero. -/
theorem GrownFrom.smoothed_spec (powers : F.PowExists) (range : p.InRange)
    (grown : t.GrownFrom drafts (.indri p) q)
    (nonneg : ∀ op args weights, Query.apply op args weights ∈ q.nodes → ∀ w ∈ weights, w.Nonneg)
    (index : Index) (doc : DocId) :
    ((t.standing index (.indri p) doc).smoothed.NotNegative ∧
      ((t.standing index (.indri p) doc).smoothed.IsNumber ↔ t.FilledAt index p doc)) ∧
    ((t.standing index (.indri p) doc).default.NotNegative ∧
      ((t.standing index (.indri p) doc).default.IsNumber ↔ t.FilledAt index p doc)) := by
  induction grown with
  | @leaf _ list qtf =>
    rw [filledAt_leaf_iff]
    obtain ⟨tf, smoothed_eq⟩ := exists_smoothed_leaf index p doc (Cursor.start list) qtf
    rw [smoothed_eq]
    exact ⟨termScore_spec range tf _ _ _, termScore_spec range 0 _ _ _⟩
  | @combine op args weights trees part supported structural same_length trees_grown ih =>
    have weights_nonneg := weights_scoredArgs_nonneg op args (nonneg op args weights part)
    -- both scores are means of scores of the arguments, whichever these are
    have of_args (score : Standing (ExactNumber F) → ExactNumber F)
        (args_spec : ∀ t ∈ trees, (score (t.standing index (.indri p) doc)).NotNegative ∧
          ((score (t.standing index (.indri p) doc)).IsNumber ↔ t.FilledAt index p doc)) :
        (meanOf op ((Query.scoredArgs op args weights).map Argument.weight)
            ((trees.map (standing index (.indri p) doc)).map score)).NotNegative ∧
          ((meanOf op ((Query.scoredArgs op args weights).map Argument.weight)
            ((trees.map (standing index (.indri p) doc)).map score)).IsNumber ↔
              ∀ t ∈ trees, t.FilledAt index p doc) := by
      rw [List.map_map]
      have lengths : (trees.map (score ∘ standing index (.indri p) doc)).length =
          ((Query.scoredArgs op args weights).map Argument.weight).length := by
        rw [List.length_map, List.length_map, same_length]
      obtain ⟨not_negative, number_iff⟩ := meanOf_spec powers op weights_nonneg lengths
        (List.forall_mem_map.2 fun t ht => (args_spec t ht).1)
      refine ⟨not_negative, number_iff.trans ?_⟩
      rw [List.forall_mem_map]
      exact forall₂_congr fun t ht => (args_spec t ht).2
    have trees_supported (t : ScoringTree (ExactNumber F)) (ht : t ∈ trees) :
        t.Supported (.indri p) := (trees_grown t ht).supported
    rw [filledAt_combine_iff, Supported.standing_combine trees_supported, Standing.combine,
      combinedScore_indri supported structural, combinedDefault_indri supported structural]
    have smoothed := of_args Standing.smoothed fun t ht => (ih t ht).1
    have default := of_args Standing.default fun t ht => (ih t ht).2
    refine ⟨?_, default⟩
    rw [Standing.smoothed]
    split
    · exact smoothed
    · exact default

end Trees

end ScoringTree

/-! ### Results -/

namespace Query

open ScoringTree

variable {p : Indri (ExactNumber F)} {drafts : List Draft} {q : Query (ExactNumber F)}
  {tree : ScoringTree (ExactNumber F)}

/-- Over any documents, smoothing divides by zero for a leaf just where its first parameter is zero
and the document has no words in the field.  A document that holds the term of a leaf is never such
a one, but a default score can be.  As every leaf has a part in every score, the score of a document
in the result is a number just if the parameter is not zero or the document has words in the fields
of all leaves.  A negative weight would be a second way to divide by zero: it makes a negative
exponent, and the score of a term that the collection lacks is zero. -/
theorem execute_isNumber_iff_filled (powers : F.PowExists) (range : p.InRange)
    (built : q.scoringTree (Index.ofDrafts drafts) (.indri p) = .ok tree) :
    (∀ cursor qtf, (ScoringTree.leaf cursor qtf).Within tree →
      (∀ doc, Scalar.ofNat ((Index.ofDrafts drafts).fieldLength cursor.list.field doc) + p.mu =
          number 0 ↔
        p.mu = number 0 ∧ (Index.ofDrafts drafts).fieldLength cursor.list.field doc = 0) ∧
      (∀ posting ∈ cursor.list.postings,
        (Index.ofDrafts drafts).fieldLength cursor.list.field posting.doc ≠ 0) ∧
      ∀ doc, ∃ s, defaultScore (Index.ofDrafts drafts) (.indri p) doc (.leaf cursor qtf) = .ok s ∧
        (s.IsNumber ↔
          p.mu ≠ number 0 ∨ (Index.ofDrafts drafts).fieldLength cursor.list.field doc ≠ 0)) ∧
    ∃ result, q.execute (Index.ofDrafts drafts) (.indri p) = .ok result ∧
      ((∀ op args weights, apply op args weights ∈ q.nodes → ∀ w ∈ weights, w.Nonneg) →
        ∀ e ∈ result.entries, e.score.IsNumber ↔
          p.mu ≠ number 0 ∨ ∀ cursor qtf, (ScoringTree.leaf cursor qtf).Within tree →
            (Index.ofDrafts drafts).fieldLength cursor.list.field e.doc ≠ 0) := by
  have grown := grownFrom_of_scoringTree built
  have divisor_iff (docLength : Nat) : Scalar.ofNat docLength + p.mu ≠ number 0 ↔
      p.mu ≠ number 0 ∨ docLength ≠ 0 := by
    rw [Ne, Indri.divisor_eq_zero_iff range, not_and_or]
  refine ⟨fun cursor qtf within => ⟨fun doc => Indri.divisor_eq_zero_iff range, ?_, fun doc => ?_⟩,
    ?_⟩
  · intro posting member
    cases grown.of_within within with
    | leaf _ usable some_arg _ =>
      exact Nat.ne_of_gt (Index.counted_of_usable usable some_arg member).fieldLength_pos
  · rw [← divisor_iff]
    exact ⟨_, rfl, (termScore_spec range 0 _ _ _).2⟩
  · obtain ⟨entries, run, ranking⟩ := execute_of_ordered (Index.ordered_ofDrafts drafts) built
    refine ⟨⟨entries⟩, run, fun nonneg e he => ?_⟩
    have matched := ((ranking.mem_docs e.doc).1 (List.mem_map_of_mem he)).2
    have scored := ranking.scored e he
    rw [grown.supported.scoreAt_eq_standing, Except.ok.injEq] at scored
    have smoothed := (grown.smoothed_spec powers range nonneg (Index.ofDrafts drafts) e.doc).1.2
    rw [Standing.smoothed_of_isMatch matched, scored] at smoothed
    rw [smoothed]
    simp only [FilledAt, divisor_iff, ← forall_or_left]

/-- With the usual parameters documents may lack fields of the query. -/
theorem execute_isNumber_iff_filled_default :
    let drafts : List Draft := [⟨"d0", [.setField "body" "dog"]⟩, ⟨"d1", [.setField "title" "cat"]⟩]
    let p : Indri (ExactNumber .usual) := Indri.default
    let q : Query (ExactNumber .usual) :=
      apply .and [(term "dog" "body").scored, (term "cat" "title").scored] []
    p.InRange ∧ p.mu ≠ number 0 ∧
      ∃ result, q.execute (Index.ofDrafts drafts) (.indri p) = .ok result ∧
        ∀ e ∈ result.entries, e.score.IsNumber := by
  intro drafts p q
  have range : p.InRange := Indri.inRange_default
  have some_mu : p.mu ≠ number 0 := by
    show number ((2500 : ℕ) : ℝ) ≠ number 0
    rw [Ne, number.injEq]
    norm_num
  have nonneg : ∀ op args weights, apply op args weights ∈ q.nodes → ∀ w ∈ weights, w.Nonneg := by
    intro op args weights node
    have unweighted : weights = [] := by
      simp [q, scored, nodes, nodesAll] at node
      tauto
    simp [unweighted]
  let stem (s field : String) : ScoringTree (ExactNumber .usual) :=
    .leaf (Cursor.start ((Index.ofDrafts drafts).invertedList s field)) 1
  have built : q.scoringTree (Index.ofDrafts drafts) (.indri p) =
      .ok (.combine .and [stem "dog" "body", stem "cat" "title"] [Scalar.ofNat 1, Scalar.ofNat 1]
        none) := rfl
  obtain ⟨-, result, run, number_iff⟩ := execute_isNumber_iff_filled ExactFunctions.powExists_usual
    range built
  exact ⟨range, some_mu, result, run, fun e he => (number_iff nonneg e he).2 (.inl some_mu)⟩

/-- Without a weight of the collection, the default score of a term in a field that the document
lacks is a quotient of zeros. -/
theorem execute_isNumber_iff_filled_zero :
    let drafts : List Draft := [⟨"d0", [.setField "body" "dog"]⟩, ⟨"d1", [.setField "title" "cat"]⟩]
    let p : Indri (ExactNumber .usual) := ⟨number 0, number 1⟩
    let q : Query (ExactNumber .usual) :=
      apply .and [(term "dog" "body").scored, (term "cat" "title").scored] []
    p.InRange ∧ ∃ result, q.execute (Index.ofDrafts drafts) (.indri p) = .ok result ∧
      ∃ e ∈ result.entries, e.doc = 0 ∧ e.score = notANumber := by
  intro drafts p q
  have range : p.InRange := {
    mu_nonneg := (atMost_number _ _).2 (by norm_num)
    lambda_nonneg := (atMost_number _ _).2 (by norm_num)
    lambda_le_one := (atMost_number _ _).2 (by norm_num) }
  have dog : (Index.ofDrafts drafts).postings "dog" "body" = [⟨0, [0]⟩] := by decide +kernel
  have no_title : (Index.ofDrafts drafts).fieldLength "title" 0 = 0 := by decide +kernel
  let stem (s field : String) : ScoringTree (ExactNumber .usual) :=
    .leaf (Cursor.start ((Index.ofDrafts drafts).invertedList s field)) 1
  let tree : ScoringTree (ExactNumber .usual) := .combine .and
    [stem "dog" "body", stem "cat" "title"] [Scalar.ofNat 1, Scalar.ofNat 1] none
  have built : q.scoringTree (Index.ofDrafts drafts) (.indri p) = .ok tree := rfl
  have matched : tree.matchesDoc (.indri p) 0 = true := by
    simp [tree, stem, matchesDoc, anyMatches, asksForAll, RetrievalModel.smoothsMissing,
      Cursor.start, Index.invertedList, dog]
  have grown := grownFrom_of_scoringTree built
  have unfilled : ¬ tree.FilledAt (Index.ofDrafts drafts) p 0 := by
    intro filled
    have divisor := filled _ 1 (.arg (List.mem_cons_of_mem _ List.mem_cons_self) (.self _))
    exact divisor ((Indri.divisor_eq_zero_iff range).2 ⟨rfl, no_title⟩)
  have nonneg : ∀ op args weights, apply op args weights ∈ q.nodes → ∀ w ∈ weights, w.Nonneg := by
    intro op args weights node
    have unweighted : weights = [] := by
      simp [q, scored, nodes, nodesAll] at node
      tauto
    simp [unweighted]
  have smoothed := (grown.smoothed_spec ExactFunctions.powExists_usual range nonneg
    (Index.ofDrafts drafts) 0).1
  rw [Standing.smoothed_of_isMatch matched] at smoothed
  obtain ⟨entries, run, ranking⟩ := execute_of_ordered (Index.ordered_ofDrafts drafts) built
  obtain ⟨e, he, same, score_eq⟩ :=
    ranking.exists_entry matched grown.supported.scoreAt_eq_standing
  refine ⟨range, ⟨entries⟩, run, e, he, same, ?_⟩
  rw [score_eq]
  exact eq_notANumber_of_not_isNumber fun number => unfilled (smoothed.2.1 number)

end Query

end RankedRetrieval
