import RankedRetrieval.Proofs.Query.Cleaning
import RankedRetrieval.Proofs.Query.Printing

/-!
# Printing and parsing again

The text of a parsed query is parsed to the same query.

## Main Definitions

* `Query.nodes` — all parts of a query
* `Query.SelfTerm` — a term whose stem stands for itself

## Main Results

* `Query.shaped_of_item`, `Query.shaped_of_arguments` — what a derivation denotes has the shape of
  a parsed query
* `Query.printable_of_clean` — when a clean query is printable
* `Query.parse_text` — the text of a parsed query is parsed to the query

## Design Notes

The text of a query is the only argument of another default operator when it is parsed again.
A parsed query is clean, so the cleaning that follows takes exactly this operator away
(`cleanup_wrapped`).
-/

namespace RankedRetrieval.Query

variable {α : Type}

/-! ### The shape of what is denoted -/

/-- A keyword is not that of `score`, and its distance is a positive word of 32 bits. -/
theorem keyword_structure {op : Operator} {word : String} (keyword : Keyword word op) :
    op ≠ .score ∧ BoundedDistance op := by
  cases keyword with
  | plain plain spelled =>
    simp only [plainOperators, List.mem_cons, List.not_mem_nil, or_false] at plain
    rcases plain with rfl | rfl | rfl | rfl | rfl | rfl <;>
      exact ⟨by decide, fun n distance => by simp at distance⟩
  | near spelled read positive =>
    refine ⟨by simp, fun n distance => ?_⟩
    obtain rfl := Operator.near.inj (distance.resolve_right (by simp))
    exact ⟨positive, Decimal.le_of_readNat read⟩
  | window spelled read positive =>
    refine ⟨by simp, fun n distance => ?_⟩
    obtain rfl := Operator.window.inj (distance.resolve_left (by simp))
    exact ⟨positive, Decimal.le_of_readNat read⟩

theorem shaped_scored {q : Query α} (positional : q.isPositional = true) (shaped : Shaped q) :
    Shaped q.scored := by
  refine .apply ⟨fun n distance => by simp at distance, rfl, fun _ => Nat.le_refl 1, ?_⟩
    (List.forall_mem_singleton.2 shaped)
  exact fun _ => List.forall_mem_singleton.2 (by simp [positional])

/-- What is put under an operator has the shape of its arguments. -/
theorem shaped_under {op : Operator} {q : Query α} (not_score : op ≠ .score)
    (shaped : Shaped q) : Shaped (q.under op) ∧
      (op.isPositional = false → (q.under op).isPositional = false) := by
  unfold under
  split
  · rename_i wraps
    have positional : q.isPositional = true := (Bool.and_eq_true_iff.1 wraps).2
    exact ⟨shaped_scored positional shaped, fun _ => rfl⟩
  · rename_i stays
    refine ⟨shaped, fun structural => ?_⟩
    simpa [structural, not_score] using stays

theorem shaped_map_under {op : Operator} {qs : List (Query α)} (not_score : op ≠ .score)
    (shaped : ∀ q ∈ qs, Shaped q) : (∀ q ∈ qs.map (under op), Shaped q) ∧
      (op.isPositional = false → ∀ q ∈ qs.map (under op), q.isPositional = false) :=
  ⟨List.forall_mem_map.2 fun q hq => (shaped_under not_score (shaped q hq)).1,
    fun kind => List.forall_mem_map.2 fun q hq =>
      (shaped_under not_score (shaped q hq)).2 kind⟩

section Derivations

variable [Numeral α]

mutual
/-- The queries that an item denotes have the shape of parsed queries. -/
theorem shaped_of_item : {tokens : List Token} → {qs : List (Query α)} → Item tokens qs →
    ∀ q ∈ qs, Shaped q
  | _, _, .operator keyword arguments => by
    obtain ⟨not_score, bounded⟩ := keyword_structure keyword
    obtain ⟨args_shaped, length_weights, structural⟩ := shaped_of_arguments arguments not_score
    refine List.forall_mem_singleton.2 (.apply ⟨bounded, length_weights,
      fun score => absurd score not_score, fun kind q hq => ?_⟩ args_shaped)
    rw [structural kind q hq]
    exact iff_of_false (by decide) not_score
  | _, _, .terms _ split => by
    refine List.forall_mem_map.2 fun stem _ => .term ?_
    cases split with
    | plain _ => decide
    | dotted _ _ allowed => exact allowed

/-- The arguments that are derived go together with their operator. -/
theorem shaped_of_arguments : {op : Operator} → {tokens : List Token} → {args : List (Query α)} →
    {weights : List α} → Arguments op tokens args weights → op ≠ .score →
    (∀ q ∈ args, Shaped q) ∧ weights.length = (if op.isWeighted then args.length else 0) ∧
      (op.isPositional = false → ∀ q ∈ args, q.isPositional = false)
  | _, _, _, _, .done, _ => by simp
  | _, _, _, _, .item unweighted item others, not_score => by
    obtain ⟨args_shaped, length_weights, structural⟩ := shaped_of_arguments others not_score
    obtain ⟨items_shaped, items_structural⟩ := shaped_map_under not_score (shaped_of_item item)
    refine ⟨List.forall_mem_append.2 ⟨items_shaped, args_shaped⟩, ?_, fun kind =>
      List.forall_mem_append.2 ⟨items_structural kind, structural kind⟩⟩
    rw [length_weights, unweighted]
    rfl
  | _, _, _, _, .weighted weighted _ item others, not_score => by
    obtain ⟨args_shaped, length_weights, structural⟩ := shaped_of_arguments others not_score
    obtain ⟨items_shaped, items_structural⟩ := shaped_map_under not_score (shaped_of_item item)
    refine ⟨List.forall_mem_append.2 ⟨items_shaped, args_shaped⟩, ?_, fun kind =>
      List.forall_mem_append.2 ⟨items_structural kind, structural kind⟩⟩
    rw [weighted, if_pos rfl] at length_weights ⊢
    simp [length_weights]
  | _, _, _, _, .unused _ _, _ => by simp
end

end Derivations

/-! ### Parts of queries -/

mutual
/-- All parts of a query, itself included. -/
def nodes : Query α → List (Query α)
  | term stem field => [term stem field]
  | apply op args weights => apply op args weights :: nodesAll args

/-- All parts of some queries. -/
def nodesAll : List (Query α) → List (Query α)
  | [] => []
  | q :: qs => q.nodes ++ nodesAll qs
end

/-- The weights of the arguments of a query; a term has none. -/
def weights : Query α → List α
  | term _ _ => []
  | apply _ _ weights => weights

/-- A term whose text has its stem as the only one; nothing is asked of an operator. -/
def SelfTerm : Query α → Prop
  | term stem _ => Text.queryTerms stem = [stem]
  | apply _ _ _ => True

instance selfTermDecidable : (q : Query α) → Decidable q.SelfTerm
  | term stem _ => inferInstanceAs (Decidable (Text.queryTerms stem = [stem]))
  | apply _ _ _ => inferInstanceAs (Decidable True)

theorem mem_nodes_self (q : Query α) : q ∈ q.nodes := by
  cases q <;> exact List.mem_cons_self

theorem nodes_subset_nodesAll {q : Query α} {qs : List (Query α)} (member : q ∈ qs) :
    q.nodes ⊆ nodesAll qs := by
  induction qs with
  | nil => simp at member
  | cons r qs ih =>
    intro part hpart
    rw [nodesAll]
    rcases List.mem_cons.1 member with rfl | later
    · exact List.mem_append_left _ hpart
    · exact List.mem_append_right _ (ih later hpart)

/-- What holds of all parts of an operator holds of all parts of its arguments. -/
theorem forall_nodes_arg {op : Operator} {args : List (Query α)} {weights : List α}
    {property : Query α → Prop} (all : ∀ part ∈ (apply op args weights).nodes, property part)
    {q : Query α} (member : q ∈ args) : ∀ part ∈ q.nodes, property part :=
  fun part hpart => all part (List.mem_cons_of_mem _ (nodes_subset_nodesAll member hpart))

/-! ### Printable queries -/

/-- A clean query is printable when its stems stand for themselves, its weights read back and its
positional operators have positional arguments only. -/
theorem printable_of_clean {q : Query Number} (clean : Clean q) (shaped : Shaped q)
    (some_args : q.isChildless = false)
    (positional : ∀ part ∈ q.nodes, part.isPositional = true →
      ∀ arg ∈ part.args, arg.isPositional = true)
    (stable : ∀ part ∈ q.nodes, part.SelfTerm)
    (reads_back : ∀ part ∈ q.nodes, ∀ w ∈ part.weights, Numeral.read (Numeral.text w) = .ok w) :
    Printable q := by
  induction clean with
  | @term stem field =>
    cases shaped with
    | term allowed => exact .term (stable _ (mem_nodes_self _)) allowed
  | @apply op args weights _ none_childless _ ih =>
    obtain ⟨node, args_shaped⟩ := shaped.of_apply
    have args_printable : ∀ q ∈ args, Printable q := fun q hq =>
      ih q hq (args_shaped q hq) (none_childless q hq) (forall_nodes_arg positional hq)
        (forall_nodes_arg stable hq) (forall_nodes_arg reads_back hq)
    by_cases is_score : op = .score
    · -- a clean `score` has exactly one argument, which is positional
      subst is_score
      obtain ⟨x, rfl⟩ : ∃ x, args = [x] := by
        cases args with
        | nil => simp [isChildless] at some_args
        | cons x rest =>
          have at_most_one := node.single rfl
          exact ⟨x, by simpa using at_most_one⟩
      obtain rfl : weights = [] := List.length_eq_zero_iff.1 node.length_weights
      exact .scored ((node.kinds rfl x List.mem_cons_self).2 rfl)
        (args_printable x List.mem_cons_self)
    · refine .operator is_score node.distance node.length_weights
        (fun w _ => plainWord_of_numberText (Decimal.numberText_shortest w.value))
        (reads_back _ (mem_nodes_self _)) (fun q hq => ?_) args_printable
      cases kind : op.isPositional with
      | true => exact positional _ (mem_nodes_self _) kind q hq
      | false =>
        exact Bool.eq_false_iff.2 fun is_positional =>
          is_score ((node.kinds kind q hq).1 is_positional)

/-! ### Parsing a text again -/

/-- The text of a parsed query with arguments is parsed to the query, when its positional
operators have positional arguments only, its weights are numbers and its stems stand for
themselves.  That the text of a number reads back as the number is assumed of its weights. -/
theorem parse_text {model : RetrievalModel Number} {source : String} {q : Query Number}
    (parsed : parse model.defaultOperator source = .ok q) (some_args : q.args ≠ [])
    (positional : ∀ part ∈ q.nodes, part.isPositional = true →
      ∀ arg ∈ part.args, arg.isPositional = true)
    (numbers : ∀ part ∈ q.nodes, ∀ w ∈ part.weights, w.isNaN = false)
    (stable : ∀ part ∈ q.nodes, part.SelfTerm)
    (reads_back : ∀ part ∈ q.nodes, ∀ w ∈ part.weights, w.isNaN = false →
      Numeral.read (Numeral.text w) = .ok w) :
    parse model.defaultOperator q.text = .ok q := by
  obtain ⟨tokens, args, weights, -, arguments, rfl⟩ := parse_iff_derived.1 parsed
  obtain ⟨not_score, structural, unweighted⟩ := defaultOperator_structure model
  obtain ⟨args_shaped, length_weights, args_structural⟩ := shaped_of_arguments arguments not_score
  have raw_shaped : Shaped (apply model.defaultOperator args weights) := by
    refine .apply ⟨?_, length_weights, fun score => absurd score not_score, fun kind q hq => ?_⟩
      args_shaped
    · intro n distance
      rcases distance with same | same <;> simp [same, Operator.isPositional] at structural
    · rw [args_structural kind q hq]
      exact iff_of_false (by decide) not_score
  have shaped := raw_shaped.cleanup
  obtain ⟨clean, stays⟩ := clean_cleanup raw_shaped
  have kind : (apply model.defaultOperator args weights).cleanup.isPositional =
      model.defaultOperator.isPositional := isPositional_cleanup raw_shaped
  -- from here on it does not matter how the query has been found, only that it is clean
  generalize (apply model.defaultOperator args weights).cleanup = q at *
  have printable : Printable q := by
    refine printable_of_clean clean shaped ?_ positional stable
      fun part hpart w hw => reads_back part hpart w hw (numbers part hpart w hw)
    rcases q with _ | ⟨op, _ | ⟨_, _⟩, _⟩
    · rfl
    · exact absurd rfl some_args
    · rfl
  refine parse_iff_derived.2 ⟨q.textTokens, [q], [], tokenized_text printable, ?_, ?_⟩
  · have derived := Arguments.item unweighted (item_textTokens printable) .done
    rwa [List.map_singleton, printable.under_unwrapScore not_score kind, List.append_nil,
      List.append_nil] at derived
  · -- the text is the only argument of a second default operator, which cleaning takes away
    exact (cleanup_wrapped clean stays shaped not_score kind.symm).symm

deriving instance DecidableEq for Number

/-- A weighted query with ordered occurrences, under any letter case. -/
theorem parse_text_weighted :
    ∃ q : Query Number,
      parse .or "#WAND(0.5 #near/2(dog, cat) 1.5 bird.Title)" = .ok q ∧
        parse .or q.text = .ok q := by
  have conditions : ((parse (α := Number) .or
      "#WAND(0.5 #near/2(dog, cat) 1.5 bird.Title)").toOption.map fun q =>
        decide (q.args.length = 2 ∧
          (∀ part ∈ q.nodes, part.isPositional = true →
            ∀ arg ∈ part.args, arg.isPositional = true) ∧
          (∀ part ∈ q.nodes, ∀ w ∈ part.weights, w.isNaN = false) ∧
          (∀ part ∈ q.nodes, part.SelfTerm) ∧
          ∀ part ∈ q.nodes, ∀ w ∈ part.weights,
            (Numeral.read (α := Number) (Numeral.text w)).toOption = some w)) = some true := by
    decide +kernel
  cases parsed : parse (α := Number) .or "#WAND(0.5 #near/2(dog, cat) 1.5 bird.Title)" with
  | error e => simp [parsed, Except.toOption] at conditions
  | ok q =>
    rw [parsed] at conditions
    obtain ⟨two_args, positional, numbers, stable, reads_back⟩ :=
      of_decide_eq_true (Option.some.inj conditions)
    have under_model :
        parse (RetrievalModel.unrankedBoolean : RetrievalModel Number).defaultOperator
          "#WAND(0.5 #near/2(dog, cat) 1.5 bird.Title)" = .ok q := parsed
    refine ⟨q, rfl, parse_text under_model ?_ positional numbers stable
      fun part hpart w hw _ => ?_⟩
    · intro no_args
      simp [no_args] at two_args
    · have read := reads_back part hpart w hw
      cases again : Numeral.read (α := Number) (Numeral.text w) with
      | error e => simp [again, Except.toOption] at read
      | ok v =>
        rw [again] at read
        rw [Option.some.inj read]

end RankedRetrieval.Query
