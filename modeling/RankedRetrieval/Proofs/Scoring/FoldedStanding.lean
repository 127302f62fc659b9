import RankedRetrieval.Proofs.Scoring.Regrouping
import RankedRetrieval.Proofs.Scoring.Smoothing

/-!
# Combining folded arguments

A combination says the same of a document whether repeats are folded into one argument or not, as
long as they agree on the document.  A weight that two repeats have between them counts as much as
the two weights.

## Main Definitions

* `Argument.Agreeing` — items of which repeats have the same value
* `RetrievalModel.BooleanOrIndri` — the models under which folding changes nothing

## Main Results

* `Argument.mem_map_forOperator_iff` — folding loses no value
* `ScoringTree.geometricMean_forOperator`, `ScoringTree.arithmeticMean_forOperator` — folding
  changes no mean
* `Standing.combine_forOperator` — folding changes nothing of what a combination says

## Design Notes

Folding makes the list of arguments shorter, and so the share of each argument greater that is
scaled to their number.  Only the sum of the weights stays as it is.  Under `and` it is the number
of the arguments before folding; under `wsum` it has to be positive.

An exponent is split where it is the sum of two positive ones and the base is not negative.  This
is where repeats differ from other arguments: they are scored by themselves.
-/

namespace RankedRetrieval

open ExactNumber

/-! ### Items that agree -/

namespace Argument

variable {α β γ : Type}

/-- Items of which repeats have the same value. -/
def Agreeing (value : β → γ) (items : List (Option String × β)) : Prop :=
  ∀ e ∈ items, ∀ repeated ∈ items, repeated.1.isSome → e.1 = repeated.1 →
    value e.2 = value repeated.2

variable {value : β → γ} {items : List (Option String × β)}

theorem Agreeing.map {δ : Type} (agreeing : Agreeing value items) (g : γ → δ) :
    Agreeing (fun b => g (value b)) items :=
  fun e he repeated member keyed same => congrArg g (agreeing e he repeated member keyed same)

theorem Agreeing.of_repeats (agreeing : Agreeing value items) {f repeated : Argument α β}
    (member : f.entry ∈ items) (repeated_member : repeated.entry ∈ items)
    (repeats : repeated.Repeats f) : value f.item = value repeated.item :=
  agreeing f.entry member repeated.entry repeated_member repeats.1 repeats.2

variable [Scalar α]

/-- Folding loses no value. -/
theorem mem_map_forOperator_iff (agreeing : Agreeing value items) (op : Operator)
    (weights : List α) (v : γ) :
    v ∈ (forOperator op items weights).map (fun f => value f.item) ↔
      v ∈ (ofWeights items weights).map fun f => value f.item := by
  constructor
  · intro member
    obtain ⟨f, hf, rfl⟩ := List.mem_map.1 member
    obtain ⟨g, hg, same⟩ := exists_mem_ofWeights (entry_mem_forOperator hf) weights
    exact List.mem_map.2 ⟨g, hg, congrArg (fun e => value e.2) same⟩
  · intro member
    obtain ⟨g, hg, rfl⟩ := List.mem_map.1 member
    obtain ⟨f, hf, stands⟩ := exists_standsFor (entry_mem_ofWeights hg) op weights
    refine List.mem_map.2 ⟨f, hf, ?_⟩
    rcases stands with same | ⟨keyed, same_key⟩
    · exact congrArg (fun e => value e.2) same
    · exact agreeing f.entry (entry_mem_forOperator hf) g.entry (entry_mem_ofWeights hg) keyed
        same_key

end Argument

variable {F : ExactFunctions} {β : Type} {items : List (Option String × β)}
  {weights : List (ExactNumber F)}

/-! ### Means -/

namespace ScoringTree

variable {γ : Type} {weight score : γ → ExactNumber F} {xs : List γ}

theorem not_atMost_zero {x : ExactNumber F} (positive : x.Positive) :
    ¬ Scalar.atMost x (Scalar.ofNat 0) = true := by
  obtain ⟨a, some_a, rfl⟩ := positive
  rw [ofNat_eq, Nat.cast_zero, atMost_number]
  exact some_a.not_ge

/-- Weights with a positive sum are exponents in proportion to them. -/
theorem geometricMean_of_positive (positive : (Scalar.sum (xs.map weight)).Positive) :
    geometricMean (xs.map weight) (xs.map score) = Scalar.product
      (xs.map fun x => Scalar.pow (score x) (weight x / Scalar.sum (xs.map weight))) := by
  simp only [geometricMean_map, if_neg (not_atMost_zero positive)]

/-- Or they are factors in proportion to them. -/
theorem arithmeticMean_of_positive (positive : (Scalar.sum (xs.map weight)).Positive) :
    arithmeticMean (xs.map weight) (xs.map score) = Scalar.total
      (xs.map fun x => weight x / Scalar.sum (xs.map weight) * score x) := by
  simp only [arithmeticMean_map, if_neg (not_atMost_zero positive)]

theorem sum_positive (positive : ∀ x ∈ xs, (weight x).Positive) (some_x : xs ≠ []) :
    (Scalar.sum (xs.map weight)).Positive := by
  obtain ⟨x, xs, rfl⟩ := List.exists_cons_of_ne_nil some_x
  obtain ⟨first, others⟩ := List.forall_mem_cons.1 positive
  rw [Scalar.sum_eq_total, List.map_cons, Scalar.total_cons]
  exact first.add (Nonneg.total (List.forall_mem_map.2 fun y hy => (others y hy).nonneg))

variable {value : β → ExactNumber F}

/-- Repeats under positive weights may be folded before a geometric mean is taken. -/
theorem geometricMean_forOperator (adds : F.PowAdds) (agreeing : Argument.Agreeing value items)
    (positive : ∀ f ∈ Argument.ofWeights items weights, f.weight.Positive)
    (not_negative : ∀ e ∈ items, e.1.isSome → (value e.2).NotNegative) (op : Operator) :
    geometricMean ((Argument.forOperator op items weights).map Argument.weight)
        ((Argument.forOperator op items weights).map fun f => value f.item) =
      geometricMean ((Argument.ofWeights items weights).map Argument.weight)
        ((Argument.ofWeights items weights).map fun f => value f.item) := by
  by_cases some_arg : Argument.ofWeights items weights = []
  · rw [Argument.forOperator, some_arg, Argument.foldRepeats, List.foldl_nil, ite_self]
  have sum_pos := sum_positive positive some_arg
  have folded_pos := sum_pos
  rw [← Argument.sum_weights_forOperator op items weights] at folded_pos
  rw [geometricMean_of_positive folded_pos, geometricMean_of_positive sum_pos,
    Argument.sum_weights_forOperator]
  -- the sum of the weights is the same on both sides, so each repeat can be folded by itself
  let holds (f : Argument (ExactNumber F) β) : Prop := f.entry ∈ items ∧ f.weight.Positive
  have kept : Argument.KeptByMerging holds :=
    fun f repeated first second _ => ⟨first.1, first.2.add second.2.nonneg⟩
  refine Argument.foldl_map_forOperator _ kept
    (fun f hf => ⟨Argument.entry_mem_ofWeights hf, positive f hf⟩) ?_ op _
  intro f repeated first second repeats
  have same := agreeing.of_repeats first.1 second.1 repeats
  have base : (value repeated.item).NotNegative := not_negative repeated.entry second.1 repeats.1
  show Scalar.pow (value f.item) ((f.weight + repeated.weight) / _) = _
  rw [add_div_eq, same,
    pow_add_of_positive adds base (first.2.div sum_pos) (second.2.div sum_pos)]

/-- Repeats under weights with a positive sum may be folded before an arithmetic mean is taken. -/
theorem arithmeticMean_forOperator (agreeing : Argument.Agreeing value items)
    (positive : items ≠ [] →
      (Scalar.sum ((Argument.ofWeights items weights).map Argument.weight)).Positive)
    (op : Operator) :
    arithmeticMean ((Argument.forOperator op items weights).map Argument.weight)
        ((Argument.forOperator op items weights).map fun f => value f.item) =
      arithmeticMean ((Argument.ofWeights items weights).map Argument.weight)
        ((Argument.ofWeights items weights).map fun f => value f.item) := by
  by_cases some_item : items = []
  · rw [some_item, Argument.forOperator, Argument.ofWeights, Argument.foldRepeats, List.foldl_nil,
      ite_self]
  have sum_pos := positive some_item
  have folded_pos := sum_pos
  rw [← Argument.sum_weights_forOperator op items weights] at folded_pos
  rw [arithmeticMean_of_positive folded_pos, arithmeticMean_of_positive sum_pos,
    Argument.sum_weights_forOperator]
  let holds (f : Argument (ExactNumber F) β) : Prop := f.entry ∈ items
  have kept : Argument.KeptByMerging holds := fun f repeated first _ _ => first
  refine Argument.foldl_map_forOperator _ kept (fun f hf => Argument.entry_mem_ofWeights hf) ?_ op _
  intro f repeated first second repeats
  have same := agreeing.of_repeats first second repeats
  show (f.weight + repeated.weight) / _ * value f.item = _
  rw [add_div_eq, add_mul_eq, same]

end ScoringTree

/-! ### Combinations -/

/-- The Boolean models, and smoothing with parameters for which it is meant. -/
def RetrievalModel.BooleanOrIndri (model : RetrievalModel (ExactNumber F)) : Prop :=
  model = .unrankedBoolean ∨ model = .rankedBoolean ∨ ∃ p, p.InRange ∧ model = .indri p

namespace Standing

open ScoringTree

variable {model : RetrievalModel (ExactNumber F)} {op : Operator}
  {value : β → Standing (ExactNumber F)}

/-- Whether a combination matches depends on what is said by some argument, and not on how often it
is said. -/
theorem combinedMatch_congr {α : Type} (model : RetrievalModel α) (op : Operator)
    {vs others : List (Standing α)} (same : ∀ v, v ∈ vs ↔ v ∈ others) :
    combinedMatch model op vs = combinedMatch model op others := by
  have same_empty : vs.isEmpty = others.isEmpty := by
    rw [Bool.eq_iff_iff, List.isEmpty_iff, List.isEmpty_iff, List.eq_nil_iff_forall_not_mem,
      List.eq_nil_iff_forall_not_mem]
    exact forall_congr' fun v => not_congr (same v)
  have same_all : vs.all isMatch = others.all isMatch := by
    rw [Bool.eq_iff_iff, List.all_eq_true, List.all_eq_true]
    exact forall_congr' fun v => imp_congr (same v) Iff.rfl
  have same_any : vs.any isMatch = others.any isMatch := by
    rw [Bool.eq_iff_iff, List.any_eq_true, List.any_eq_true]
    exact exists_congr fun v => and_congr (same v) Iff.rfl
  rw [combinedMatch, combinedMatch, same_empty, same_all, same_any]

theorem combinedScore_least (vs : List (Standing (ExactNumber F))) :
    combinedScore .rankedBoolean .and weights vs =
      (vs.map Standing.score).foldl Scalar.lesser Scalar.greatest := rfl

/-- The least score is that of some argument, however often it has it. -/
theorem least_forOperator {score : β → ExactNumber F} (agreeing : Argument.Agreeing score items)
    (op : Operator) (weights : List (ExactNumber F)) (start : ExactNumber F) :
    ((Argument.forOperator op items weights).map fun f => score f.item).foldl Scalar.lesser start =
      ((Argument.ofWeights items weights).map fun f => score f.item).foldl Scalar.lesser start := by
  let holds (f : Argument (ExactNumber F) β) : Prop := f.entry ∈ items
  have kept : Argument.KeptByMerging holds := fun f repeated first _ _ => first
  refine Argument.foldl_map_forOperator _ kept (fun f hf => Argument.entry_mem_ofWeights hf) ?_ op _
  intro f repeated first second repeats
  have same := agreeing.of_repeats first second repeats
  show score f.item = _
  rw [same, lesser_self]

/-- What is asked of weights so that folding does not change means. -/
structure Foldable (op : Operator) (items : List (Option String × β))
    (weights : List (ExactNumber F)) : Prop where
  /-- Under `and` each of them is positive. -/
  each : op = .and → ∀ f ∈ Argument.ofWeights items weights, f.weight.Positive
  /-- Under `wsum` their sum is positive. -/
  sum : op = .wsum → items ≠ [] →
    (Scalar.sum ((Argument.ofWeights items weights).map Argument.weight)).Positive

/-- Folding changes neither mean. -/
theorem meanOf_forOperator {score : β → ExactNumber F} (adds : F.PowAdds)
    (agreeing : Argument.Agreeing score items) (foldable : Foldable op items weights)
    (not_negative : ∀ e ∈ items, e.1.isSome → (score e.2).NotNegative)
    (smoothing : op = .and ∨ op = .wand ∨ op = .wsum) :
    meanOf op ((Argument.forOperator op items weights).map Argument.weight)
        ((Argument.forOperator op items weights).map fun f => score f.item) =
      meanOf op ((Argument.ofWeights items weights).map Argument.weight)
        ((Argument.ofWeights items weights).map fun f => score f.item) := by
  rcases smoothing with rfl | rfl | rfl
  · exact geometricMean_forOperator adds agreeing (foldable.each rfl) not_negative .and
  · rfl
  · exact arithmeticMean_forOperator agreeing (foldable.sum rfl) .wsum

/-- Folding changes nothing of what a combination says of a document. -/
theorem combine_forOperator (adds : F.PowAdds) (exact_model : model.BooleanOrIndri)
    (supported : model.supports op = true) (structural : op ≠ .score)
    (agreeing : Argument.Agreeing value items) (foldable : Foldable op items weights)
    (not_negative : model.smoothsMissing = true → ∀ e ∈ items, e.1.isSome →
      (value e.2).smoothed.NotNegative ∧ (value e.2).default.NotNegative) :
    combine model op ((Argument.forOperator op items weights).map Argument.weight)
        ((Argument.forOperator op items weights).map fun f => value f.item) =
      combine model op ((Argument.ofWeights items weights).map Argument.weight)
        ((Argument.ofWeights items weights).map fun f => value f.item) := by
  have same_match := combinedMatch_congr model op
    (Argument.mem_map_forOperator_iff agreeing op weights)
  rw [combine, combine, same_match]
  rcases exact_model with rfl | rfl | ⟨p, -, rfl⟩
  · cases op <;> rfl
  · have least := least_forOperator (agreeing.map Standing.score) op weights Scalar.greatest
    cases op with
    | and =>
      rw [combinedScore_least, combinedScore_least, List.map_map, List.map_map]
      congr 1
    | syn | near | window | score | or | wand | sum | wsum => rfl
  · have smoothing := operator_of_supports_indri supported structural
    rw [combinedScore_indri supported structural, combinedScore_indri supported structural,
      combinedDefault_indri supported structural, combinedDefault_indri supported structural]
    simp only [List.map_map]
    -- both scores are means, one of smoothed scores and one of default scores
    congr 1
    · exact meanOf_forOperator adds (agreeing.map Standing.smoothed) foldable
        (fun e he keyed => (not_negative rfl e he keyed).1) smoothing
    · exact meanOf_forOperator adds (agreeing.map Standing.default) foldable
        (fun e he keyed => (not_negative rfl e he keyed).2) smoothing

end Standing

end RankedRetrieval
