import RankedRetrieval.Proofs.Query.Leaves
import RankedRetrieval.Proofs.Query.PositionalTexts
import RankedRetrieval.Proofs.Query.RoundTrip

/-!
# Parsed queries

What is known of every part of a query that has been parsed.

## Main Definitions

* `Query.Parsed` — a clean query of the shape of parsed ones, over bare stems
* `Query.isScored` — whether a query is the score of another one

## Main Results

* `Query.parsed_of_parse` — what the parser yields is such a query
* `Query.Parsed.of_mem_nodes` — so are all of its parts
* `Query.Parsed.recognisable` — its arguments can be compared by their texts, if no positional
  operator in it has a scored argument

## Design Notes

A structural operator with a single argument gives way to it.  Among the arguments of a positional
operator, `#and(dog)` therefore leaves a scored `dog` behind, and that is written as `dog` is.
This is the only way in which a parsed query can fail to be legible.
-/

namespace RankedRetrieval.Query

variable {α : Type}

/-- Whether a query is the score of another one. -/
def isScored : Query α → Bool
  | apply .score _ _ => true
  | _ => false

/-- A clean query of the shape of parsed ones, over bare stems. -/
structure Parsed (q : Query α) : Prop where
  /-- Nothing is left to clean. -/
  clean : Clean q
  /-- Operators and arguments go together. -/
  shaped : Shaped q
  /-- The stems are bare. -/
  stems_bare : ∀ leaf ∈ q.leaves, Bare leaf.1

/-! ### Stems -/

theorem bare_of_mem_queryTerms {stem text : String} (member : stem ∈ Text.queryTerms text) :
    Bare stem := by
  intro c hc mark
  have all_marks : ∀ d ∈ [' ', '.', '(', ')'], d ∈ Text.marks := by decide
  exact (Text.solid_of_mem_queryTerms member).plain c hc (all_marks c mark)

section Derivations

variable [Numeral α]

mutual
/-- The stems that an item denotes are bare. -/
theorem bare_of_item : {tokens : List Token} → {qs : List (Query α)} → Item tokens qs →
    ∀ leaf ∈ leavesAll qs, Bare leaf.1
  | _, _, .operator _ arguments => by
    rw [leavesAll_singleton]
    exact bare_of_arguments arguments
  | _, _, .terms _ _ => by
    rw [leavesAll_map_term]
    exact List.forall_mem_map.2 fun stem member => bare_of_mem_queryTerms member

/-- The leaves of arguments that have been read are bare. -/
theorem bare_of_arguments : {op : Operator} → {tokens : List Token} → {args : List (Query α)} →
    {weights : List α} → Arguments op tokens args weights → ∀ leaf ∈ leavesAll args, Bare leaf.1
  | _, _, _, _, .done | _, _, _, _, .unused _ _ => by simp [leavesAll]
  | _, _, _, _, .item _ item others | _, _, _, _, .weighted _ _ item others => by
    rw [leavesAll_append, leavesAll_map_under]
    exact List.forall_mem_append.2 ⟨bare_of_item item, bare_of_arguments others⟩
end

/-- What the parser yields under the default operator of a model is a parsed query. -/
theorem parsed_of_parse [NatCast α] {model : RetrievalModel α} {source : String} {q : Query α}
    (parsed : parse model.defaultOperator source = .ok q) : Parsed q := by
  obtain ⟨tokens, args, weights, -, arguments, rfl⟩ := parse_iff_derived.1 parsed
  obtain ⟨not_score, structural, -⟩ := defaultOperator_structure model
  obtain ⟨args_shaped, length_weights, args_structural⟩ := shaped_of_arguments arguments not_score
  have raw_shaped : Shaped (apply model.defaultOperator args weights) := by
    refine .apply ⟨?_, length_weights, fun score => absurd score not_score, fun kind q hq => ?_⟩
      args_shaped
    · intro n distance
      rcases distance with same | same <;> simp [same, Operator.isPositional] at structural
    · rw [args_structural kind q hq]
      exact iff_of_false (by decide) not_score
  refine ⟨(clean_cleanup raw_shaped).1, raw_shaped.cleanup, ?_⟩
  rw [leaves_cleanup]
  exact bare_of_arguments arguments

end Derivations

/-! ### Parts -/

mutual
/-- What holds of a query and is handed down to arguments holds of all parts. -/
theorem forall_nodes {property : Query α → Prop}
    (handed_down : ∀ op args weights, property (apply op args weights) → ∀ q ∈ args, property q) :
    (q : Query α) → property q → ∀ part ∈ q.nodes, property part
  | term _ _, holds => List.forall_mem_singleton.2 holds
  | apply op args weights, holds => List.forall_mem_cons.2
      ⟨holds, forall_nodesAll handed_down args (handed_down op args weights holds)⟩

theorem forall_nodesAll {property : Query α → Prop}
    (handed_down : ∀ op args weights, property (apply op args weights) → ∀ q ∈ args, property q) :
    (qs : List (Query α)) → (∀ q ∈ qs, property q) → ∀ part ∈ nodesAll qs, property part
  | [], _ => by simp [nodesAll]
  | q :: qs, all => by
    obtain ⟨first, others⟩ := List.forall_mem_cons.1 all
    exact List.forall_mem_append.2
      ⟨forall_nodes handed_down q first, forall_nodesAll handed_down qs others⟩
end

/-- The parts of a part are parts of the whole. -/
theorem nodes_subset {q part : Query α} (member : part ∈ q.nodes) : part.nodes ⊆ q.nodes := by
  have handed_down (op : Operator) (args : List (Query α)) (weights : List α)
      (all : (apply op args weights).nodes ⊆ q.nodes) : ∀ arg ∈ args, arg.nodes ⊆ q.nodes :=
    fun _ harg _ hpart => all (List.mem_cons_of_mem _ (nodes_subset_nodesAll harg hpart))
  have all_parts : ∀ part ∈ q.nodes, part.nodes ⊆ q.nodes :=
    forall_nodes handed_down q (List.Subset.refl _)
  exact all_parts part member

namespace Parsed

variable {q : Query α}

/-- The arguments of a parsed query are parsed ones, and not childless. -/
theorem of_apply {op : Operator} {args : List (Query α)} {weights : List α}
    (parsed : Parsed (apply op args weights)) : ∀ q ∈ args, Parsed q ∧ q.isChildless = false := by
  obtain ⟨clean, shaped, stems_bare⟩ := parsed
  cases clean with
  | apply args_clean none_childless _ =>
    refine fun q hq => ⟨⟨args_clean q hq, shaped.of_apply.2 q hq, fun leaf hleaf => ?_⟩,
      none_childless q hq⟩
    obtain ⟨before, after, rfl⟩ := List.append_of_mem hq
    refine stems_bare leaf ?_
    rw [leaves, leavesAll_append, leavesAll]
    exact List.mem_append_right _ (List.mem_append_left _ hleaf)

theorem of_mem_nodes (parsed : Parsed q) : ∀ part ∈ q.nodes, Parsed part :=
  forall_nodes (fun _ _ _ parsed q hq => (parsed.of_apply q hq).1) q parsed

/-- The text of a parsed query can be read from the left, if no positional operator in it has a
scored argument. -/
theorem legible (parsed : Parsed q) (not_scored : q.isScored = false)
    (unscored : ∀ part ∈ q.nodes, part.isPositional = true →
      ∀ arg ∈ part.args, arg.isScored = false) : q.Legible := by
  induction parsed.clean with
  | @term stem field =>
    have field_bare : ∀ field ∈ fields, Bare field := by decide
    cases parsed.shaped with
    | term allowed =>
      exact .term (parsed.stems_bare (stem, field) (List.mem_singleton_self _))
        (field_bare field allowed)
  | @apply op args weights _ _ _ ih =>
    obtain ⟨node, -⟩ := parsed.shaped.of_apply
    refine .apply ?_ (fun positional => ?_) fun positional q hq => ?_
    · rintro rfl
      simp [isScored] at not_scored
    · -- what is merged has no weights
      have unweighted : op.isWeighted = false := by
        cases op <;> first | rfl | simp [Operator.isPositional] at positional
      have length_weights := node.length_weights
      rw [unweighted] at length_weights
      exact List.length_eq_zero_iff.1 length_weights
    · exact ih q hq (parsed.of_apply q hq).1 (unscored _ (mem_nodes_self _) positional q hq)
        (forall_nodes_arg unscored hq)

/-- The arguments of a structural operator can be compared by their texts. -/
theorem recognisable {op : Operator} {args : List (Query α)} {weights : List α}
    (parsed : Parsed (apply op args weights))
    (unscored : ∀ part ∈ (apply op args weights).nodes, part.isPositional = true →
      ∀ arg ∈ part.args, arg.isScored = false) : ∀ q ∈ args, q.Recognisable := by
  rintro _ hq others other_weights rfl
  obtain ⟨scored_parsed, some_args⟩ := parsed.of_apply _ hq
  obtain ⟨node, -⟩ := scored_parsed.shaped.of_apply
  -- a parsed `score` has exactly one argument, which is positional
  obtain ⟨inner, rfl⟩ : ∃ inner, others = [inner] := by
    cases others with
    | nil => simp [isChildless] at some_args
    | cons inner rest =>
      have at_most_one := node.single rfl
      exact ⟨inner, by simpa using at_most_one⟩
  have positional : inner.isPositional = true := (node.kinds rfl inner List.mem_cons_self).2 rfl
  obtain ⟨inner_parsed, -⟩ := scored_parsed.of_apply inner List.mem_cons_self
  have not_scored : inner.isScored = false := by
    unfold isScored
    split
    · simp [isPositional, Operator.isPositional] at positional
    · rfl
  exact ⟨inner, rfl, inner_parsed.legible not_scored
    (forall_nodes_arg (forall_nodes_arg unscored hq) List.mem_cons_self)⟩

end Parsed

end RankedRetrieval.Query
