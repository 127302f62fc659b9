import RankedRetrieval.Proofs.Ranking.Results
import RankedRetrieval.Proofs.Scoring.TermScores

/-!
# Sums of term scores

Under BM25 all scores are sums of term scores, weighted or not.  A weighted sum is divided by the
sum of its weights, and this is the only division that can be one by zero.

## Main Definitions

* `Standing.weighted` — the weighted scores of the arguments that match
* `ExactNumber.OneSign` — weights none of which is on the other side of zero than another one
* `ScoringTree.WeighedAt` — a tree none of whose weighted sums at a document is divided by zero

## Main Results

* `ScoringTree.GrownFrom.isNumber_iff_weighedAt` — a score is a number unless a weighted sum is
  divided by zero
* `ScoringTree.GrownFrom.score_nonneg` — no score is negative, if weights are of one sign
* `Query.execute_isNumber_iff` — which scores of a result are numbers
* `Query.bm25_defined` — term scores are defined, and so are sums

## Design Notes

A weighted sum leaves out the weighted scores of arguments that are at another document, but the
sum that it is divided by has the weights of all of them.  With weights of both signs the score of
a document that lacks an argument can therefore be negative.
-/

namespace RankedRetrieval

open ExactNumber

variable {F : ExactFunctions}

/-! ### Weights of one sign -/

namespace ExactNumber

/-- A real number that is not on the other side of zero than a given one. -/
def Sided (side : ℝ) (x : ExactNumber F) : Prop :=
  ∃ a, 0 ≤ side * a ∧ x = number a

/-- Numbers none of which is on the other side of zero than another one. -/
def OneSign (xs : List (ExactNumber F)) : Prop :=
  ∃ side, side ≠ 0 ∧ ∀ x ∈ xs, x.Sided side

namespace Sided

variable {side : ℝ} {x y : ExactNumber F}

theorem add (first : x.Sided side) (second : y.Sided side) : (x + y).Sided side := by
  obtain ⟨a, same_side, rfl⟩ := first
  obtain ⟨b, other_side, rfl⟩ := second
  exact ⟨a + b, by rw [mul_add]; exact add_nonneg same_side other_side, rfl⟩

theorem mul (first : x.Sided side) (second : y.Nonneg) : (x * y).Sided side := by
  obtain ⟨a, same_side, rfl⟩ := first
  obtain ⟨b, nonneg, rfl⟩ := second
  exact ⟨a * b, by rw [← mul_assoc]; exact mul_nonneg same_side nonneg, rfl⟩

theorem total {xs : List (ExactNumber F)} (all : ∀ x ∈ xs, x.Sided side) :
    (Scalar.total xs).Sided side := by
  induction xs with
  | nil => exact ⟨0, by rw [mul_zero], congrArg number Nat.cast_zero⟩
  | cons x xs ih =>
    obtain ⟨first, others⟩ := List.forall_mem_cons.1 all
    rw [Scalar.total_cons]
    exact first.add (ih others)

/-- A quotient of two numbers on one side is not negative. -/
theorem div (some_side : side ≠ 0) (first : x.Sided side) (second : y.Sided side)
    (divisor : y ≠ number 0) : (x / y).Nonneg := by
  obtain ⟨a, same_side, rfl⟩ := first
  obtain ⟨b, other_side, rfl⟩ := second
  have some_b : b ≠ 0 := fun zero => divisor (congrArg number zero)
  refine ⟨a / b, ?_, number_div a some_b⟩
  rw [← mul_div_mul_left a b some_side]
  exact div_nonneg same_side other_side

end Sided

end ExactNumber

/-! ### Weighted scores -/

namespace Standing

/-- The weighted scores of the arguments that match. -/
def weighted {α : Type} [Scalar α] (weights : List α) (vs : List (Standing α)) : List α :=
  (List.zipWith (fun w score? => score?.map fun score => w * score) weights
    (vs.map score?)).filterMap id

theorem combinedScore_sum {α : Type} [Scalar α] (p : Bm25 α) (weights : List α)
    (vs : List (Standing α)) : combinedScore (.bm25 p) .sum weights vs =
      Scalar.total ((vs.map score?).filterMap id) := rfl

theorem combinedScore_wsum {α : Type} [Scalar α] (p : Bm25 α) (weights : List α)
    (vs : List (Standing α)) : combinedScore (.bm25 p) .wsum weights vs =
      Scalar.total (weighted weights vs) / Scalar.sum weights := rfl

theorem forall_scores_iff {α : Type} {holds : α → Prop} {vs : List (Standing α)} :
    (∀ x ∈ (vs.map score?).filterMap id, holds x) ↔
      ∀ v ∈ vs, v.isMatch = true → holds v.score := by
  induction vs with
  | nil => simp
  | cons v vs ih =>
    rw [List.map_cons, List.forall_mem_cons, ← ih, score?]
    cases v.isMatch <;> simp

theorem weighted_cons {α : Type} [Scalar α] (w : α) (weights : List α) (v : Standing α)
    (vs : List (Standing α)) : weighted (w :: weights) (v :: vs) =
      if v.isMatch then w * v.score :: weighted weights vs else weighted weights vs := by
  rw [weighted, weighted, List.map_cons, List.zipWith_cons_cons, score?]
  cases v.isMatch <;> rfl

variable {weights : List (ExactNumber F)} {vs : List (Standing (ExactNumber F))}

/-- Weighted scores are numbers when the scores are. -/
theorem forall_weighted_isNumber_iff (same_length : weights.length = vs.length)
    (numbers : ∀ w ∈ weights, w.IsNumber) :
    (∀ x ∈ weighted weights vs, x.IsNumber) ↔
      ∀ v ∈ vs, v.isMatch = true → v.score.IsNumber := by
  induction weights generalizing vs with
  | nil =>
    obtain rfl := List.length_eq_zero_iff.1 same_length.symm
    simp [weighted]
  | cons w weights ih =>
    cases vs with
    | nil => simp at same_length
    | cons v vs =>
      obtain ⟨number, others⟩ := List.forall_mem_cons.1 numbers
      rw [weighted_cons, List.forall_mem_cons, ← ih (Nat.succ.inj same_length) others]
      split
      · rename_i matched
        rw [List.forall_mem_cons, isNumber_mul_iff, and_iff_right number]
        simp [matched]
      · rename_i unmatched
        simp [unmatched]

/-- Weighted scores are on the side of the weights. -/
theorem sided_of_mem_weighted {side : ℝ} (sided : ∀ w ∈ weights, w.Sided side)
    (nonneg : ∀ v ∈ vs, v.isMatch = true → v.score.Nonneg) :
    ∀ x ∈ weighted weights vs, x.Sided side := by
  induction weights generalizing vs with
  | nil => simp [weighted]
  | cons w weights ih =>
    cases vs with
    | nil => simp [weighted]
    | cons v vs =>
      obtain ⟨first, others⟩ := List.forall_mem_cons.1 sided
      obtain ⟨first_nonneg, others_nonneg⟩ := List.forall_mem_cons.1 nonneg
      rw [weighted_cons]
      split
      · rename_i matched
        exact List.forall_mem_cons.2
          ⟨first.mul (first_nonneg matched), ih others others_nonneg⟩
      · exact ih others others_nonneg

end Standing

/-! ### Scores of grown trees -/

namespace ScoringTree

/-- No weighted sum that a tree takes of a document is divided by zero. -/
def WeighedAt (model : RetrievalModel (ExactNumber F)) (doc : DocId)
    (t : ScoringTree (ExactNumber F)) : Prop :=
  ∀ args weights current, (combine .wsum args weights current).Within t →
    (combine .wsum args weights current).matchesDoc model doc = true →
    Scalar.sum weights ≠ number 0

/-- In every weighted sum that a tree takes, the weights are of one sign. -/
def OneSigned (t : ScoringTree (ExactNumber F)) : Prop :=
  ∀ args weights current, (combine .wsum args weights current).Within t → OneSign weights

variable {p : Bm25 (ExactNumber F)}

/-- The operators of BM25. -/
theorem operator_of_supports_bm25 {op : Operator} (supported : (RetrievalModel.bm25 p).supports op)
    (structural : op ≠ .score) : op = .sum ∨ op = .wsum := by
  cases op with
  | sum => exact .inl rfl
  | wsum => exact .inr rfl
  | score => exact absurd rfl structural
  | syn | near | window | or | and | wand => simp [RetrievalModel.supports] at supported

variable {t : ScoringTree (ExactNumber F)} {drafts : List Draft} {q : Query (ExactNumber F)}

theorem Supported.asksForAll_eq_false {op : Operator}
    (supported : (RetrievalModel.bm25 p).supports op) (structural : op ≠ .score) :
    asksForAll (.bm25 p) op = false := by
  rcases operator_of_supports_bm25 supported structural with rfl | rfl <;> rfl

/-- A tree that one match suffices matches what a tree within it matches. -/
theorem Supported.matchesDoc_of_within (supported : t.Supported (.bm25 p))
    {part : ScoringTree (ExactNumber F)} (within : part.Within t) {doc : DocId}
    (matched : part.matchesDoc (.bm25 p) doc = true) : t.matchesDoc (.bm25 p) doc = true := by
  induction within with
  | self => exact matched
  | arg member _ ih =>
    cases supported with
    | combine op_supported structural args_supported =>
      rw [matchesDoc_combine_any (asksForAll_eq_false op_supported structural)]
      exact ⟨_, member, ih (args_supported _ member)⟩

/-- The score of a leaf is a number and not negative, whatever the document. -/
theorem leaf_score_nonneg (logs : F.LogExists) (range : p.InRange) {list : InvertedList} {qtf : Nat}
    {r : Query (ExactNumber F)} (usable : r.Usable drafts list) (some_arg : 0 < qtf) (doc : DocId) :
    ((leaf (Cursor.start list) qtf).standing (Index.ofDrafts drafts) (.bm25 p)
      doc).score.Nonneg := by
  rw [standing, scoreAt, leafScoreAt]
  dsimp only [Cursor.start]
  cases found : list.postings.find? fun posting => posting.doc = doc with
  | none => exact nonneg_ofNat 0
  | some posting =>
    have counted := Index.counted_of_usable usable some_arg (List.mem_of_find?_eq_some found)
    obtain ⟨s, scored, nonneg⟩ := (Bm25.defined_of_counted logs range counted).score_nonneg
    dsimp only
    rw [scored]
    exact nonneg

theorem weighedAt_leaf {model : RetrievalModel (ExactNumber F)} {cursor : Cursor} {qtf : Nat}
    {doc : DocId} : (leaf cursor qtf).WeighedAt model doc := by
  intro args weights current within
  have same := within_leaf_iff.1 within
  simp at same

theorem weighedAt_combine_iff {model : RetrievalModel (ExactNumber F)} {op : Operator}
    {args : List (ScoringTree (ExactNumber F))} {weights : List (ExactNumber F)}
    {current : Option DocId} {doc : DocId} : (combine op args weights current).WeighedAt model doc ↔
      (op = .wsum → (combine op args weights current).matchesDoc model doc = true →
        Scalar.sum weights ≠ number 0) ∧ ∀ t ∈ args, t.WeighedAt model doc := by
  constructor
  · intro weighed
    refine ⟨?_, fun t ht others other_weights other_current within =>
      weighed others other_weights other_current (.arg ht within)⟩
    rintro rfl
    exact weighed args weights current (.self _)
  · rintro ⟨here, below⟩ others other_weights other_current within
    rcases within_combine_iff.1 within with same | ⟨t, ht, within⟩
    · obtain ⟨rfl, rfl, rfl, rfl⟩ := ScoringTree.combine.inj same
      exact here rfl
    · exact below t ht others other_weights other_current within

theorem isNumber_sum_iff {weights : List (ExactNumber F)} :
    (Scalar.sum weights).IsNumber ↔ ∀ w ∈ weights, w.IsNumber := by
  rw [Scalar.sum_eq_total, isNumber_total_iff]

namespace GrownFrom

variable {doc : DocId}

/-- A matched document has a score that is a number, unless a weighted sum on the way to it is
divided by zero. -/
theorem isNumber_iff_weighedAt (logs : F.LogExists) (range : p.InRange)
    (grown : t.GrownFrom drafts (.bm25 p) q)
    (numbers : ∀ op args weights, Query.apply op args weights ∈ q.nodes →
      ∀ w ∈ weights, w.IsNumber)
    (matched : t.matchesDoc (.bm25 p) doc = true) :
    (t.standing (Index.ofDrafts drafts) (.bm25 p) doc).score.IsNumber ↔
      t.WeighedAt (.bm25 p) doc := by
  induction grown with
  | leaf _ usable some_arg _ =>
    exact iff_of_true (leaf_score_nonneg logs range usable some_arg doc).isNumber weighedAt_leaf
  | @combine op args weights trees part supported structural same_length trees_grown ih =>
    have trees_supported (t : ScoringTree (ExactNumber F)) (ht : t ∈ trees) :
        t.Supported (.bm25 p) := (trees_grown t ht).supported
    have args_iff : (∀ v ∈ trees.map (standing (Index.ofDrafts drafts) (.bm25 p) doc),
        v.isMatch = true → v.score.IsNumber) ↔ ∀ t ∈ trees, t.WeighedAt (.bm25 p) doc := by
      rw [List.forall_mem_map]
      refine forall₂_congr fun t ht => ⟨fun number => ?_, fun weighed matched =>
        (ih t ht matched).2 weighed⟩
      by_cases matched : t.matchesDoc (.bm25 p) doc = true
      · exact (ih t ht matched).1 (number matched)
      · -- a tree at another document takes no sum of this one
        intro others other_weights current within part_matched
        exact absurd ((trees_supported t ht).matchesDoc_of_within within part_matched) matched
    rw [Supported.standing_combine_score trees_supported, weighedAt_combine_iff, ← args_iff]
    rcases operator_of_supports_bm25 supported structural with rfl | rfl
    · rw [Standing.combinedScore_sum, isNumber_total_iff, Standing.forall_scores_iff]
      exact (and_iff_right fun is_wsum => by simp at is_wsum).symm
    · have weights_numbers : ∀ w ∈ (Query.scoredArgs .wsum args weights).map Argument.weight,
          w.IsNumber := by
        intro w hw
        obtain ⟨f, hf, rfl⟩ := List.mem_map.1 hw
        exact Argument.weight_of_mem_forOperator (nonneg_ofNat 1).isNumber
          (fun x y first second => isNumber_add_iff.2 ⟨first, second⟩) (numbers _ _ _ part) hf
      rw [Standing.combinedScore_wsum, isNumber_div_iff, isNumber_total_iff,
        Standing.forall_weighted_isNumber_iff (by simp [same_length]) weights_numbers,
        isNumber_sum_iff, and_iff_right weights_numbers]
      exact ⟨fun ⟨scores, divisor⟩ => ⟨fun _ _ => divisor, scores⟩,
        fun ⟨divisor, scores⟩ => ⟨scores, divisor rfl matched⟩⟩

/-- The score of a matched document is not negative, if the weights of every weighted sum are of
one sign and no such sum is divided by zero. -/
theorem score_nonneg (logs : F.LogExists) (range : p.InRange)
    (grown : t.GrownFrom drafts (.bm25 p) q) (signs : t.OneSigned)
    (matched : t.matchesDoc (.bm25 p) doc = true) (weighed : t.WeighedAt (.bm25 p) doc) :
    (t.standing (Index.ofDrafts drafts) (.bm25 p) doc).score.Nonneg := by
  induction grown with
  | leaf _ usable some_arg _ => exact leaf_score_nonneg logs range usable some_arg doc
  | @combine op args weights trees part supported structural same_length trees_grown ih =>
    obtain ⟨divisor, args_weighed⟩ := weighedAt_combine_iff.1 weighed
    have args_nonneg : ∀ v ∈ trees.map (standing (Index.ofDrafts drafts) (.bm25 p) doc),
        v.isMatch = true → v.score.Nonneg := by
      refine List.forall_mem_map.2 fun t ht arg_matched =>
        ih t ht ?_ arg_matched (args_weighed t ht)
      exact fun others other_weights current within =>
        signs others other_weights current (.arg ht within)
    rw [Supported.standing_combine_score fun t ht => (trees_grown t ht).supported]
    rcases operator_of_supports_bm25 supported structural with rfl | rfl
    · rw [Standing.combinedScore_sum]
      exact Nonneg.total (Standing.forall_scores_iff.2 args_nonneg)
    · obtain ⟨side, some_side, sided⟩ := signs _ _ _ (.self _)
      have sum_sided :
          (Scalar.sum ((Query.scoredArgs .wsum args weights).map Argument.weight)).Sided side := by
        rw [Scalar.sum_eq_total]
        exact Sided.total sided
      rw [Standing.combinedScore_wsum]
      exact Sided.div some_side (Sided.total (Standing.sided_of_mem_weighted sided args_nonneg))
        sum_sided (divisor rfl matched)

end GrownFrom

end ScoringTree

/-! ### Results -/

namespace Query

open ScoringTree

variable {p : Bm25 (ExactNumber F)} {drafts : List Draft} {q : Query (ExactNumber F)}
  {tree : ScoringTree (ExactNumber F)}

/-- Under BM25, a weighted sum is divided by the sum of the weights of an operator of the query,
whatever arguments have been folded.  For parameters in range and weights that are numbers, nothing
else can be divided by zero: the score of a document in the result is a number unless one of the
weighted sums that are taken of the document has weights whose sum is zero.  If the query has no
such operator, all scores are numbers. -/
theorem execute_isNumber_iff (logs : F.LogExists) {source : String}
    (parsed : parse (RetrievalModel.bm25 p).defaultOperator source = .ok q)
    (built : q.scoringTree (Index.ofDrafts drafts) (.bm25 p) = .ok tree) :
    (∀ trees weights current, (ScoringTree.combine .wsum trees weights current).Within tree →
      ∃ args own, apply .wsum args own ∈ q.nodes ∧ Scalar.sum weights = Scalar.sum own) ∧
    ∃ result, q.execute (Index.ofDrafts drafts) (.bm25 p) = .ok result ∧
      (p.InRange →
        (∀ op args weights, apply op args weights ∈ q.nodes → ∀ w ∈ weights, w.IsNumber) →
        (∀ e ∈ result.entries, e.score.IsNumber ↔ tree.WeighedAt (.bm25 p) e.doc) ∧
        ((∀ args weights, apply .wsum args weights ∈ q.nodes → Scalar.sum weights ≠ number 0) →
          ∀ e ∈ result.entries, e.score.IsNumber)) := by
  have grown := grownFrom_of_scoringTree built
  have sums : ∀ trees weights current,
      (ScoringTree.combine .wsum trees weights current).Within tree →
      ∃ args own, apply .wsum args own ∈ q.nodes ∧ Scalar.sum weights = Scalar.sum own := by
    intro trees weights current within
    cases grown.of_within within with
    | @combine op args own _ part =>
      obtain ⟨node, -⟩ := ((parsed_of_parse parsed).of_mem_nodes _ part).shaped.of_apply
      refine ⟨args, own, part, ?_⟩
      rw [scoredArgs, Argument.sum_weights_forOperator,
        Argument.weights_ofWeights (by rw [List.length_map]; exact node.length_weights)]
  obtain ⟨entries, run, ranking⟩ := execute_of_ordered (Index.ordered_ofDrafts drafts) built
  refine ⟨sums, ⟨entries⟩, run, fun range numbers => ?_⟩
  have number_iff : ∀ e ∈ entries, e.score.IsNumber ↔ tree.WeighedAt (.bm25 p) e.doc := by
    intro e he
    have matched := ((ranking.mem_docs e.doc).1 (List.mem_map_of_mem he)).2
    have scored := ranking.scored e he
    rw [grown.supported.scoreAt_eq_standing, Except.ok.injEq] at scored
    rw [← scored]
    exact grown.isNumber_iff_weighedAt logs range numbers matched
  refine ⟨number_iff, fun no_zero e he => (number_iff e he).2 ?_⟩
  intro trees weights current within _
  obtain ⟨args, own, part, same⟩ := sums trees weights current within
  rw [same]
  exact no_zero args own part

/-- The weighted sum of two stems is parsed with the weights that are read. -/
theorem parse_weighted_pair {source first second : String} {x y : ExactNumber F}
    (tokens : Token.lex source =
      [.word "#wsum", .word first, .word "dog", .word second, .word "cat", .close])
    (first_read : Weight first x) (second_read : Weight second y) :
    parse .sum source =
      .ok (apply .wsum [(term "dog" "body").scored, (term "cat" "body").scored] [x, y]) := by
  have dog : Item [.word "dog"] [(term "dog" "body" : Query (ExactNumber F))] :=
    item_stem (by decide) (by decide) (by decide +kernel)
  have cat : Item [.word "cat"] [(term "cat" "body" : Query (ExactNumber F))] :=
    item_stem (by decide) (by decide) (by decide +kernel)
  have second_arg : Arguments .wsum _ _ _ := .weighted rfl second_read cat .done
  have inner := Arguments.weighted rfl first_read dog second_arg
  have keyword : Keyword "#wsum" .wsum := .plain (by decide) (by decide)
  have outer : Arguments .sum _ _ _ := .item rfl (.operator keyword inner) .done
  exact parse_iff_derived.2 ⟨_, _, _, tokenized_iff.2 tokens, outer, rfl⟩

theorem weight_of_literal {word : String} {l : Decimal.Literal} {x : ℝ}
    (free : Token.keyword? word = .ok none) (some_char : word.toList ≠ [])
    (readable : (Decimal.readNumber word).isOk = true)
    (literal : Decimal.readLiteral? (Decimal.splitSign word.toList).1
      (Decimal.splitSign word.toList).2 = some l) (value : l.toReal = x) :
    Weight word (number x : ExactNumber F) := by
  refine ⟨keyword?_eq_none_iff.1 free, ?_⟩
  rw [read_of_literal some_char readable literal, value]

/-- A weighted sum whose weights do not add up to zero. -/
theorem execute_isNumber_iff_pair :
    let drafts : List Draft := [⟨"d0", [.setField "body" "dog cat"]⟩]
    let p : Bm25 (ExactNumber .usual) := Bm25.default
    let q : Query (ExactNumber .usual) :=
      apply .wsum [(term "dog" "body").scored, (term "cat" "body").scored] [number 1, number 2]
    parse (RetrievalModel.bm25 p).defaultOperator "#wsum(1 dog 2 cat)" = .ok q ∧
      ∃ result, q.execute (Index.ofDrafts drafts) (.bm25 p) = .ok result ∧
        ∀ e ∈ result.entries, e.score.IsNumber := by
  intro drafts p q
  have one : Weight "1" (number 1 : ExactNumber .usual) :=
    weight_of_literal (l := ⟨false, 1, 0⟩) (by decide) (by decide) (by decide +kernel) rfl
      (by simp [Decimal.Literal.toReal])
  have two : Weight "2" (number 2 : ExactNumber .usual) :=
    weight_of_literal (l := ⟨false, 2, 0⟩) (by decide) (by decide) (by decide +kernel) rfl
      (by simp [Decimal.Literal.toReal])
  have parsed : parse (RetrievalModel.bm25 p).defaultOperator "#wsum(1 dog 2 cat)" = .ok q :=
    parse_weighted_pair (by decide) one two
  have numbers : ∀ op args weights, apply op args weights ∈ q.nodes →
      ∀ w ∈ weights, w.IsNumber := by
    intro op args weights node
    have own : weights = [number 1, number 2] ∨ weights = [] := by
      simp [q, scored, nodes, nodesAll] at node
      tauto
    rcases own with rfl | rfl <;> simp [isNumber_number]
  let stem (s : String) : ScoringTree (ExactNumber .usual) :=
    .leaf (Cursor.start ((Index.ofDrafts drafts).invertedList s "body")) 1
  have built : q.scoringTree (Index.ofDrafts drafts) (.bm25 p) =
      .ok (.combine .wsum [stem "dog", stem "cat"] [number 1, number 2] none) := rfl
  obtain ⟨-, result, run, scores⟩ := execute_isNumber_iff ExactFunctions.logExists_usual parsed
    built
  refine ⟨parsed, result, run, (scores Bm25.inRange_default numbers).2 ?_⟩
  have sum_eq : (Scalar.sum [number 1, number 2] : ExactNumber .usual) = number (0 + 1 + 2) := rfl
  simp [q, scored, nodes, nodesAll, sum_eq]
  norm_num

/-- Two weights that are zero, and so is what the score is divided by. -/
theorem execute_isNumber_zero :
    let drafts : List Draft := [⟨"d0", [.setField "body" "dog cat"]⟩]
    let p : Bm25 (ExactNumber .usual) := Bm25.default
    let q : Query (ExactNumber .usual) :=
      apply .wsum [(term "dog" "body").scored, (term "cat" "body").scored] [number 0, number 0]
    parse (RetrievalModel.bm25 p).defaultOperator "#wsum(0 dog 0 cat)" = .ok q ∧
      ∃ result, q.execute (Index.ofDrafts drafts) (.bm25 p) = .ok result ∧
        ∃ e ∈ result.entries, e.doc = 0 ∧ e.score = notANumber := by
  intro drafts p q
  have zero : Weight "0" (number 0 : ExactNumber .usual) :=
    weight_of_literal (l := ⟨false, 0, 0⟩) (by decide) (by decide) (by decide +kernel) rfl
      (by simp [Decimal.Literal.toReal])
  have dog : (Index.ofDrafts drafts).postings "dog" "body" = [⟨0, [0]⟩] := by decide +kernel
  have cat : (Index.ofDrafts drafts).postings "cat" "body" = [⟨0, [1]⟩] := by decide +kernel
  let stem (s : String) : ScoringTree (ExactNumber .usual) :=
    .leaf (Cursor.start ((Index.ofDrafts drafts).invertedList s "body")) 1
  let tree : ScoringTree (ExactNumber .usual) :=
    .combine .wsum [stem "dog", stem "cat"] [number 0, number 0] none
  have built : q.scoringTree (Index.ofDrafts drafts) (.bm25 p) = .ok tree := rfl
  have matched : tree.matchesDoc (.bm25 p) 0 = true := by
    simp [tree, stem, matchesDoc, anyMatches, asksForAll, Cursor.start, Index.invertedList, dog]
  have sum_eq : (Scalar.sum [number 0, number 0] : ExactNumber .usual) = number 0 := by
    show number (0 + 0 + 0) = number 0
    norm_num
  have scored : scoreAt (Index.ofDrafts drafts) (.bm25 p) 0 tree = .ok notANumber := by
    simp [tree, stem, scoreAt, scoresOfMatching, leafScoreAt, postingScore, matchesDoc,
      Cursor.start, Index.invertedList, dog, cat, Except.map, weightedSum, sum_eq, div_zero]
  obtain ⟨entries, run, ranking⟩ := execute_of_ordered (Index.ordered_ofDrafts drafts) built
  exact ⟨parse_weighted_pair (by decide) zero zero, ⟨entries⟩, run,
    ranking.exists_entry matched scored⟩

/-- Over any documents, every leaf of a scoring tree is scored at postings whose figures are those
of documents with words, so its score is defined and not negative.  The sum of the scores of a
document is not negative either, unless a weighted sum in it has weights of both signs, or is taken
of the document with weights whose sum is zero.  What is so of the sums is so of the scores in the
result. -/
theorem bm25_defined (logs : F.LogExists) (range : p.InRange)
    (built : q.scoringTree (Index.ofDrafts drafts) (.bm25 p) = .ok tree) :
    (∀ cursor qtf, (ScoringTree.leaf cursor qtf).Within tree →
      ∀ posting ∈ cursor.list.postings, (Index.ofDrafts drafts).Counted cursor.list qtf posting ∧
        p.Defined (Index.ofDrafts drafts) cursor.list qtf posting) ∧
    (∀ trees weights current, (ScoringTree.combine .sum trees weights current).Within tree →
      (ScoringTree.combine .sum trees weights current).OneSigned → ∀ doc,
        (ScoringTree.combine .sum trees weights current).matchesDoc (.bm25 p) doc = true →
        (ScoringTree.combine .sum trees weights current).WeighedAt (.bm25 p) doc → ∃ s,
          scoreAt (Index.ofDrafts drafts) (.bm25 p) doc (.combine .sum trees weights current) =
            .ok s ∧ s.Nonneg) ∧
    ∃ result, q.execute (Index.ofDrafts drafts) (.bm25 p) = .ok result ∧
      ∀ e ∈ result.entries, scoreAt (Index.ofDrafts drafts) (.bm25 p) e.doc tree = .ok e.score ∧
        (tree.OneSigned → tree.WeighedAt (.bm25 p) e.doc → e.score.Nonneg) := by
  have grown := grownFrom_of_scoringTree built
  have nonneg {part : ScoringTree (ExactNumber F)} (within : part.Within tree)
      (signs : part.OneSigned) {doc : DocId} (matched : part.matchesDoc (.bm25 p) doc = true)
      (weighed : part.WeighedAt (.bm25 p) doc) : ∃ s,
        scoreAt (Index.ofDrafts drafts) (.bm25 p) doc part = .ok s ∧ s.Nonneg := by
    have part_grown := grown.of_within within
    exact ⟨_, part_grown.supported.scoreAt_eq_standing,
      part_grown.score_nonneg logs range signs matched weighed⟩
  refine ⟨?_, fun _ _ _ within signs doc => nonneg within signs, ?_⟩
  · intro cursor qtf within posting member
    cases grown.of_within within with
    | leaf _ usable some_arg _ =>
      have counted := Index.counted_of_usable usable some_arg member
      exact ⟨counted, Bm25.defined_of_counted logs range counted⟩
  · obtain ⟨entries, run, ranking⟩ := execute_of_ordered (Index.ordered_ofDrafts drafts) built
    refine ⟨⟨entries⟩, run, fun e he => ⟨ranking.scored e he, fun signs weighed => ?_⟩⟩
    have matched := ((ranking.mem_docs e.doc).1 (List.mem_map_of_mem he)).2
    obtain ⟨s, scored, s_nonneg⟩ := nonneg (.self tree) signs matched weighed
    obtain rfl := Except.ok.inj ((ranking.scored e he).symm.trans scored)
    exact s_nonneg

/-- A sum over a stem and a weighted sum with positive weights. -/
theorem bm25_defined_positive :
    let drafts : List Draft := [⟨"d0", [.setField "body" "dog"]⟩, ⟨"d1", [.setField "body" "bird"]⟩,
      ⟨"d2", [.setField "body" "mouse"]⟩]
    let p : Bm25 (ExactNumber .usual) := Bm25.default
    let q : Query (ExactNumber .usual) := apply .sum [(term "fish" "body").scored,
      apply .wsum [(term "dog" "body").scored, (term "cat" "body").scored] [number 1, number 3]] []
    p.InRange ∧ ∃ result, q.execute (Index.ofDrafts drafts) (.bm25 p) = .ok result ∧
      ∀ e ∈ result.entries, e.score.Nonneg := by
  intro drafts p q
  let stem (s : String) : ScoringTree (ExactNumber .usual) :=
    .leaf (Cursor.start ((Index.ofDrafts drafts).invertedList s "body")) 1
  let tree : ScoringTree (ExactNumber .usual) := .combine .sum
    [stem "fish", .combine .wsum [stem "dog", stem "cat"] [number 1, number 3] none]
    [Scalar.ofNat 1, Scalar.ofNat 1] none
  have weights_of_within : ∀ args weights current,
      (ScoringTree.combine .wsum args weights current).Within tree →
        weights = [number 1, number 3] := by
    intro args weights current within
    simp [tree, stem, within_combine_iff, within_leaf_iff] at within
    exact within.2.1
  have signs : tree.OneSigned := by
    intro args weights current within
    rw [weights_of_within args weights current within]
    exact ⟨1, one_ne_zero, by simp [Sided]⟩
  have built : q.scoringTree (Index.ofDrafts drafts) (.bm25 p) = .ok tree := rfl
  obtain ⟨-, -, result, run, scores⟩ := bm25_defined ExactFunctions.logExists_usual
    Bm25.inRange_default built
  refine ⟨Bm25.inRange_default, result, run, fun e he => (scores e he).2 signs ?_⟩
  intro args weights current within _
  rw [weights_of_within args weights current within]
  have sum_eq : (Scalar.sum [number 1, number 3] : ExactNumber .usual) = number (0 + 1 + 3) := rfl
  rw [sum_eq, Ne, number.injEq]
  norm_num

/-- A stem that one of three documents of one length holds once has a positive score there. -/
theorem exists_termScore_default : ∃ a : ℝ, 0 < a ∧
    (Bm25.default : Bm25 (ExactNumber .usual)).termScore (Scalar.ofNat 1) (Scalar.ofNat 1)
      (Scalar.ofNat 3) (Scalar.ofNat 1) (Scalar.ofNat 3 / Scalar.ofNat 3) (Scalar.ofNat 1) =
        number a := by
  have average : (Scalar.ofNat 3 / Scalar.ofNat 3 : ExactNumber .usual) = number 1 := by
    rw [ofNat_eq, number_div _ (by norm_num)]
    norm_num
  have less : Real.log (3 / 2) < Real.log (5 / 2) := Real.log_lt_log (by norm_num) (by norm_num)
  have weight : (rsjWeight (Scalar.ofNat 1) (Scalar.ofNat 3) : ExactNumber .usual) =
      number (Real.log (5 / 2) - Real.log (3 / 2)) := by
    rw [rsjWeight, ofNat_eq, ofNat_eq, ofNat_eq, half_eq, number_sub, number_add, number_add,
      ln_usual (by norm_num), ln_usual (by norm_num), number_sub, greater_number]
    norm_num
    exact less.le
  have k1_eq : (Bm25.default : Bm25 (ExactNumber .usual)).k1 = number 1.2 := rfl
  have b_eq : (Bm25.default : Bm25 (ExactNumber .usual)).b = number 0.75 := rfl
  have k3_eq : (Bm25.default : Bm25 (ExactNumber .usual)).k3 = number 0 :=
    congrArg number Nat.cast_zero
  refine ⟨(Real.log (5 / 2) - Real.log (3 / 2)) * (1 / 2.2) * 1, ?_, ?_⟩
  · exact mul_pos (mul_pos (sub_pos.2 less) (by norm_num)) one_pos
  · rw [Bm25.termScore, weight, average, k1_eq, b_eq, k3_eq]
    simp only [ofNat_eq, number_sub, number_mul, number_add]
    rw [number_div, number_add, number_mul, number_add, number_div, number_div, number_mul,
      number_mul]
    all_goals norm_num

/-- A sum over a weighted sum with weights of both signs, of which only the negative one is that
of a stem in the document. -/
theorem bm25_defined_negative :
    let drafts : List Draft := [⟨"d0", [.setField "body" "dog"]⟩, ⟨"d1", [.setField "body" "bird"]⟩,
      ⟨"d2", [.setField "body" "mouse"]⟩]
    let p : Bm25 (ExactNumber .usual) := Bm25.default
    let q : Query (ExactNumber .usual) := apply .sum [(term "fish" "body").scored,
      apply .wsum [(term "dog" "body").scored, (term "cat" "body").scored]
        [number (-1), number 3]] []
    p.InRange ∧ ∃ result, q.execute (Index.ofDrafts drafts) (.bm25 p) = .ok result ∧
      ∃ e ∈ result.entries, ∃ a < 0, e.score = number a := by
  intro drafts p q
  have postings : ["fish", "dog", "cat"].map (fun stem =>
      (Index.ofDrafts drafts).postings stem "body") = [[], [⟨0, [0]⟩], []] := by
    decide +kernel
  simp only [List.map_cons, List.map_nil, List.cons.injEq, and_true] at postings
  obtain ⟨fish, dog, cat⟩ := postings
  have figures : ((Index.ofDrafts drafts).numDocs, (Index.ofDrafts drafts).fieldLength "body" 0,
      (Index.ofDrafts drafts).sumFieldLengths "body", (Index.ofDrafts drafts).docCount "body") =
        (3, 1, 3, 3) := by
    decide +kernel
  simp only [Prod.mk.injEq] at figures
  obtain ⟨numDocs, fieldLength, sumFieldLengths, docCount⟩ := figures
  let stem (s : String) : ScoringTree (ExactNumber .usual) :=
    .leaf (Cursor.start ((Index.ofDrafts drafts).invertedList s "body")) 1
  let tree : ScoringTree (ExactNumber .usual) := .combine .sum
    [stem "fish", .combine .wsum [stem "dog", stem "cat"] [number (-1), number 3] none]
    [Scalar.ofNat 1, Scalar.ofNat 1] none
  have built : q.scoringTree (Index.ofDrafts drafts) (.bm25 p) = .ok tree := rfl
  have matched : tree.matchesDoc (.bm25 p) 0 = true := by
    simp [tree, stem, matchesDoc, anyMatches, asksForAll, Cursor.start, Index.invertedList, dog]
  obtain ⟨a, positive, term_eq⟩ := exists_termScore_default
  have scored : scoreAt (Index.ofDrafts drafts) (.bm25 p) 0 tree =
      .ok (Scalar.total [Scalar.total [number (-1) * number a] /
        Scalar.sum [number (-1), number 3]]) := by
    rw [← term_eq]
    simp [tree, stem, scoreAt, scoresOfMatching, leafScoreAt, postingScore, matchesDoc, anyMatches,
      asksForAll, Cursor.start, Index.invertedList, fish, dog, cat, Except.map, weightedSum,
      numDocs, fieldLength, sumFieldLengths, docCount, p, -ofNat_eq]
    rfl
  have value : (Scalar.total [Scalar.total [number (-1) * number a] /
      Scalar.sum [number (-1), number 3]] : ExactNumber .usual) = number (-a / 2) := by
    rw [Scalar.total_cons, Scalar.total_cons, Scalar.total_nil, Scalar.sum_eq_total,
      Scalar.total_cons, Scalar.total_cons, Scalar.total_nil, ofNat_eq, number_mul, number_add,
      number_add, number_add, number_div _ (by norm_num), number_add]
    norm_num
  obtain ⟨entries, run, ranking⟩ := execute_of_ordered (Index.ordered_ofDrafts drafts) built
  obtain ⟨e, he, -, score_eq⟩ := ranking.exists_entry matched scored
  exact ⟨Bm25.inRange_default, ⟨entries⟩, run, e, he, -a / 2, by linarith, score_eq.trans value⟩

end Query

end RankedRetrieval
