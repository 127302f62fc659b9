import RankedRetrieval.Proofs.Feedback.Malformed
import RankedRetrieval.Proofs.Query.Reduction

/-!
# Combined queries

What a query that is combined with its expansion is parsed to.

## Main Definitions

* `Query.mixture` — two queries as weighted arguments of a sum

## Main Results

* `Query.cleanup_weighted_pair` — two queries may be cleaned before they are mixed
* `Query.cleanup_mixture` — what is left of a mixture of clean queries
* `Query.parse_item` — a text with a single item is parsed to the clean form of the item
* `Expansion.parse_combine` — a query combined with its expansion is parsed to the mixture of what
  both are parsed to

## Design Notes

**The parts are cleaned together.**  The combination pastes one text behind another, so what is
cleaned is one tree over both of them, where both have not been cleaned yet.  Cleaning each part
first and the mixture afterwards takes out other operators in another order, and as long as there
is a leaf the same query is left.

**Without any leaf the outermost operators may differ.**  Only that there are no arguments is the
same then.
-/

namespace RankedRetrieval

namespace Query

variable {α : Type}

/-! ### Mixtures -/

/-- Two queries as weighted arguments of a sum. -/
def mixture [NatCast α] (w : α) (q : Query α) (v : α) (r : Query α) : Query α :=
  ((apply .wsum [] []).append q (some w)).append r (some v)

theorem mixture_eq [NatCast α] {w v : α} {q r : Query α} (q_structural : q.isPositional = false)
    (r_structural : r.isPositional = false) : mixture w q v r = apply .wsum [q, r] [w, v] := by
  have q_stays : q.under .wsum = q := under_of_same_kind q_structural
  have r_stays : r.under .wsum = r := under_of_same_kind r_structural
  show apply .wsum [q.under .wsum, r.under .wsum] [w, v] = _
  rw [q_stays, r_stays]

section Mixtures

variable {w v : α} {q r : Query α}

/-- Two queries may be cleaned before they are mixed, if there is a leaf. -/
theorem cleanup_weighted_pair (some_leaf : (apply .wsum [q, r] [w, v]).leaves ≠ []) :
    (apply .wsum [q.cleanup, r.cleanup] [w, v]).cleanup = (apply .wsum [q, r] [w, v]).cleanup := by
  have parts : ReducesAll (weighed [q, r] [w, v]) (weighed [q.cleanup, r.cleanup] [w, v]) :=
    .keep (reduces_cleanup q) (.keep (reduces_cleanup r) .nil)
  exact (Reduces.apply parts).cleanup_eq some_leaf

/-- What is left of two normal queries that are mixed: both of them, or the one that has arguments
without its weight. -/
theorem cleanup_mixture [NatCast α] (q_normal : Normal q) (r_normal : Normal r)
    (q_structural : q.isPositional = false) (r_structural : r.isPositional = false) :
    (q.args ≠ [] → r.args = [] → (mixture w q v r).cleanup = q) ∧
    (q.args = [] → r.args ≠ [] → (mixture w q v r).cleanup = r) ∧
    (q.args ≠ [] → r.args ≠ [] → (mixture w q v r).cleanup = apply .wsum [q, r] [w, v]) := by
  have q_leaves := q_normal.args_eq_nil_iff q_structural
  have r_leaves := r_normal.args_eq_nil_iff r_structural
  have all_leaves : (apply .wsum [q, r] [w, v]).leaves = q.leaves ++ r.leaves := by
    simp [leaves, leavesAll]
  rw [mixture_eq q_structural r_structural]
  refine ⟨?_, ?_, ?_⟩
  · intro some_args no_args
    have only_first : Reduces (apply .wsum [q, r] [w, v]) q :=
      .collapse (.keep (.refl q) (.drop (r_leaves.1 no_args) .nil)) (by decide) q_structural.symm
    have some_leaf : (apply .wsum [q, r] [w, v]).leaves ≠ [] := by
      rw [all_leaves]
      exact List.append_ne_nil_of_left_ne_nil (mt q_leaves.2 some_args) _
    rw [← only_first.cleanup_eq some_leaf, q_normal.cleanup_eq]
  · intro no_args some_args
    have only_second : Reduces (apply .wsum [q, r] [w, v]) r :=
      .collapse (.drop (q_leaves.1 no_args) (.keep (.refl r) .nil)) (by decide) r_structural.symm
    have some_leaf : (apply .wsum [q, r] [w, v]).leaves ≠ [] := by
      rw [all_leaves]
      exact List.append_ne_nil_of_right_ne_nil _ (mt r_leaves.2 some_args)
    rw [← only_second.cleanup_eq some_leaf, r_normal.cleanup_eq]
  · intro q_args r_args
    have q_stays := isChildless_eq_false_of_leaves (mt q_leaves.2 q_args)
    have r_stays := isChildless_eq_false_of_leaves (mt r_leaves.2 r_args)
    have normal : Normal (apply .wsum [q, r] [w, v]) := by
      refine .apply ?_ ?_ rfl (Nat.le_refl 2)
      · simp [q_normal, r_normal]
      · simp [q_stays, r_stays]
    exact normal.cleanup_eq

/-- Cleaning a weighted sum of two queries that have not been cleaned leads to the clean mixture of
what is left of each. -/
theorem cleanup_weighted_sum [NatCast α] (q_structural : q.isPositional = false)
    (r_structural : r.isPositional = false) :
    let sum := (apply .wsum [q, r] [w, v]).cleanup
    sum.leaves = q.cleanup.leaves ++ r.cleanup.leaves ∧
    (q.cleanup.args = [] → r.cleanup.args = [] → sum.args = []) ∧
    (q.cleanup.args ≠ [] ∨ r.cleanup.args ≠ [] →
      sum = (mixture w q.cleanup v r.cleanup).cleanup) ∧
    (q.cleanup.args ≠ [] → r.cleanup.args = [] → sum = q.cleanup) ∧
    (q.cleanup.args = [] → r.cleanup.args ≠ [] → sum = r.cleanup) ∧
    (q.cleanup.args ≠ [] → r.cleanup.args ≠ [] →
      sum = apply .wsum [q.cleanup, r.cleanup] [w, v]) := by
  intro sum
  have q_kind := (reduces_cleanup q).isPositional_eq.trans q_structural
  have r_kind := (reduces_cleanup r).isPositional_eq.trans r_structural
  have q_leaves := (normal_cleanup q).args_eq_nil_iff q_kind
  have r_leaves := (normal_cleanup r).args_eq_nil_iff r_kind
  have all_leaves : sum.leaves = q.cleanup.leaves ++ r.cleanup.leaves := by
    simp [sum, leaves_cleanup, leaves, leavesAll]
  have mixed (some_args : q.cleanup.args ≠ [] ∨ r.cleanup.args ≠ []) :
      sum = (mixture w q.cleanup v r.cleanup).cleanup := by
    rw [mixture_eq q_kind r_kind]
    refine (cleanup_weighted_pair ?_).symm
    rw [← leaves_cleanup, all_leaves, Ne, List.append_eq_nil_iff, ← q_leaves, ← r_leaves]
    exact not_and_or.2 some_args
  obtain ⟨only_q, only_r, both⟩ := @cleanup_mixture _ w v _ _ _ (normal_cleanup q)
    (normal_cleanup r) q_kind r_kind
  refine ⟨all_leaves, ?_, mixed, ?_, ?_, ?_⟩
  · intro q_none r_none
    have kind : sum.isPositional = false := (reduces_cleanup _).isPositional_eq
    rw [(normal_cleanup _).args_eq_nil_iff kind, all_leaves, q_leaves.1 q_none, r_leaves.1 r_none]
    rfl
  · intro q_some r_none
    rw [mixed (.inl q_some), only_q q_some r_none]
  · intro q_none r_some
    rw [mixed (.inr r_some), only_r q_none r_some]
  · intro q_some r_some
    rw [mixed (.inl q_some), both q_some r_some]

end Mixtures

/-! ### Texts with a single item -/

section Items

variable [Numeral α]

/-- A query that is parsed has arguments exactly if it has leaves. -/
theorem args_eq_nil_iff_of_parse [NatCast α] {model : RetrievalModel α} {source : String}
    {q : Query α} (parsed : parse model.defaultOperator source = .ok q) :
    q.args = [] ↔ q.leaves = [] := by
  obtain ⟨tokens, args, weights, -, -, rfl⟩ := parse_iff_derived.1 parsed
  obtain ⟨-, structural, -⟩ := defaultOperator_structure model
  refine (normal_cleanup _).args_eq_nil_iff ?_
  exact (reduces_cleanup _).isPositional_eq.trans structural

/-- A text with a single item that is not positional is parsed to the clean form of the item. -/
theorem parse_item [NatCast α] {model : RetrievalModel α} {source : String} {tokens : List Token}
    {q : Query α} (tokenized : Tokenized source.toList tokens) (item : Item tokens [q])
    (structural : q.isPositional = false) :
    parse model.defaultOperator source = .ok q.cleanup := by
  obtain ⟨not_score, kind, unweighted⟩ := defaultOperator_structure model
  have whole := Arguments.item unweighted item .done
  rw [List.map_singleton, under_of_same_kind (structural.trans kind.symm), List.append_nil,
    List.append_nil] at whole
  refine parse_iff_derived.2 ⟨tokens, [q], [], tokenized, whole, ?_⟩
  -- the default operator around the item gives way to it
  have collapses : (apply model.defaultOperator [q] ([] : List α)).collapsed? = some q := by
    simp [collapsed?, not_score, kind, structural]
  rw [cleanup_of_collapsed? collapses]

end Items

end Query

namespace Expansion

open Query

/-! ### Parsing of combinations -/

/-- The tokens of a combined query are those of a sum over the query and the expansion. -/
theorem item_combine {p : FeedbackParameters Number} {model : RetrievalModel Number}
    {text expansion : String} {inside added : List Token} {args : List (Query Number)}
    {weights : List Number} {e : Query Number} (tokenized : Tokenized text.toList inside)
    (arguments : Arguments model.defaultOperator inside args weights)
    (expanded : Tokenized expansion.toList added) (item : Item added [e])
    (structural : e.isPositional = false)
    (reads_back : ∀ x ∈ [p.queryWeight, Scalar.ofNat 1 - p.queryWeight],
      Numeral.read (Numeral.text x) = .ok x) :
    ∃ tokens : List Token, Tokenized (combine p model text expansion).toList tokens ∧
      Item tokens [apply .wsum [apply model.defaultOperator args weights, e]
        [p.queryWeight, Scalar.ofNat 1 - p.queryWeight]] := by
  obtain ⟨-, -, first⟩ := text_weight p.queryWeight
  obtain ⟨-, -, second⟩ := text_weight (Scalar.ofNat 1 - p.queryWeight)
  have first_read := reads_back p.queryWeight List.mem_cons_self
  have second_read := reads_back (Scalar.ofNat 1 - p.queryWeight)
    (List.mem_cons_of_mem _ List.mem_cons_self)
  obtain ⟨-, kind, -⟩ := defaultOperator_structure model
  have weighted : Operator.wsum.isWeighted = true := rfl
  have original := Item.operator (keyword_defaultOperator model) arguments
  have behind : Arguments .wsum (.word (Numeral.text (Scalar.ofNat 1 - p.queryWeight)) :: added)
      [e] [Scalar.ofNat 1 - p.queryWeight] := by
    have derived := Arguments.weighted weighted (second.weight second_read) item .done
    rwa [List.map_singleton, under_of_same_kind structural, List.append_nil] at derived
  have both := Arguments.weighted weighted (first.weight first_read) original behind
  have stays : (apply model.defaultOperator args weights).under .wsum =
      apply model.defaultOperator args weights := under_of_same_kind kind
  rw [List.map_singleton, stays] at both
  have sum := Item.operator keyword_wsum both
  refine ⟨_, tokenized_combine p model tokenized expanded, ?_⟩
  simpa using sum

/-- A query that is combined with its expansion is parsed, whenever both of them are, to the clean
mixture of what they are parsed to.  If one of them is left without arguments, the other one is
what is left of the mixture, without a weight; if both are, there are no arguments at all.  That the
texts of the two weights read back as the weights is assumed. -/
theorem parse_combine (docs : List Document) (ranking : List (DocId × Number))
    (p mixing : FeedbackParameters Number) {model : RetrievalModel Number} {text : String}
    {t f : Query Number} (parsed : parse model.defaultOperator text = .ok t)
    (expanded : parse model.defaultOperator
      (expand (Index.ofDocuments docs) ranking p model) = .ok f)
    (reads_back : ∀ x ∈ [mixing.queryWeight, Scalar.ofNat 1 - mixing.queryWeight],
      Numeral.read (Numeral.text x) = .ok x) :
    let w := mixing.queryWeight
    let v := Scalar.ofNat 1 - mixing.queryWeight
    ∃ q : Query Number,
      parse model.defaultOperator
          (combine mixing model text (expand (Index.ofDocuments docs) ranking p model)) = .ok q ∧
        q.leaves = t.leaves ++ f.leaves ∧
        (t.args = [] → f.args = [] → q.args = []) ∧
        (t.args ≠ [] ∨ f.args ≠ [] → q = (mixture w t v f).cleanup) ∧
        (t.args ≠ [] → f.args = [] → q = t) ∧
        (t.args = [] → f.args ≠ [] → q = f) ∧
        (t.args ≠ [] → f.args ≠ [] → q = apply .wsum [t, f] [w, v]) := by
  intro w v
  obtain ⟨-, kind, -⟩ := defaultOperator_structure model
  obtain ⟨inside, args, weights, tokenized, arguments, rfl⟩ := parse_iff_derived.1 parsed
  -- the expansion is a single item
  have solid : ∀ scored ∈ scoreTerms (Index.ofDocuments docs) ranking p field,
      Text.Solid scored.1.toList := by
    intro scored member
    exact solid_of_mem_scoreTerms member
  obtain ⟨added, terms, termWeights, spelled, item, -⟩ := item_query model solid
  have structural : (operator model).isPositional = false := by
    unfold operator
    split <;> rfl
  obtain rfl : (apply (operator model) terms termWeights).cleanup = f :=
    Except.ok.inj ((parse_item spelled item structural).symm.trans expanded)
  -- both texts are read before anything is cleaned
  obtain ⟨tokens, combined, whole⟩ :=
    item_combine tokenized arguments spelled item structural reads_back
  exact ⟨_, parse_item combined whole rfl, cleanup_weighted_sum kind structural⟩

/-- A query of two words, combined with an expansion by one term. -/
theorem parse_combine_alpha :
    let docs := [(Document.named "d").withField "keywords" "alpha"]
    let model : RetrievalModel Number := .indri Indri.default
    let expansion := expand (Index.ofDocuments docs) [(0, 1.0)] defaultParameters model
    ∃ t f : Query Number,
      parse model.defaultOperator "dog cat" = .ok t ∧
      parse model.defaultOperator expansion = .ok f ∧
      t.leaves = [("dog", "body"), ("cat", "body")] ∧ f.leaves = [("alpha", "body")] ∧
      parse model.defaultOperator (combine defaultParameters model "dog cat" expansion) =
        .ok (apply .wsum [t, f] [0.5, Scalar.ofNat 1 - 0.5]) := by
  intro docs model expansion
  obtain ⟨t, parsed, t_leaves⟩ := Except.map_eq_ok_iff.1
    (show (parse (α := Number) model.defaultOperator "dog cat").map leaves =
      .ok [("dog", "body"), ("cat", "body")] by decide +kernel)
  have stable : Text.queryTerms "alpha" = ["alpha"] := by decide +kernel
  have taken : selected (Index.ofDocuments docs) [(0, 1.0)] defaultParameters field =
      ["alpha"] := by
    refine List.perm_singleton.1 (selected_perm ?_ (by decide))
    decide +kernel
  obtain ⟨f, expanded, analysed, -⟩ :=
    parse_query_scoreTerms docs [(0, 1.0)] defaultParameters field model
  have f_leaves : f.leaves = [("alpha", "body")] := by
    rw [analysed, taken, List.flatMap_singleton, stable]
    rfl
  have reads_back : ∀ x ∈ [(0.5 : Number), Scalar.ofNat 1 - 0.5],
      Numeral.read (Numeral.text x) = .ok x := by decide +kernel
  obtain ⟨q, combined, -, -, -, -, -, both⟩ := parse_combine docs [(0, 1.0)] defaultParameters
    defaultParameters parsed expanded reads_back
  have t_args : t.args ≠ [] := by
    rw [Ne, args_eq_nil_iff_of_parse parsed, t_leaves]
    exact List.cons_ne_nil _ _
  have f_args : f.args ≠ [] := by
    rw [Ne, args_eq_nil_iff_of_parse expanded, f_leaves]
    exact List.cons_ne_nil _ _
  rw [both t_args f_args] at combined
  exact ⟨t, f, parsed, expanded, t_leaves, f_leaves, combined⟩

end Expansion

end RankedRetrieval
