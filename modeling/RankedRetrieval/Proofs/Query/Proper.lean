import Mathlib.Data.List.Forall2
import RankedRetrieval.Proofs.Query.Cleaning

/-!
# Proper queries

A query tree that is given as a tree need not come from a text.  A proper one combines what its
operators can combine.

## Main Definitions

* `Query.Bare` — texts that do not run into what stands around them
* `Query.Combinable` — queries whose operators have arguments that they can combine
* `Query.Proper` — combinable queries whose positional operators have no weights
* `Query.tidied` — what a pass puts in the place of an argument

## Main Results

* `Query.Proper.cleanup` — cleaning keeps a query proper
* `Query.Proper.related_cleanup` — what holds of every step of cleaning holds of cleaning

## Design Notes

Unlike a query as the parser builds it (`Query.Shaped`), a proper query may have structural
operators over positional arguments, any fields, and any weights where scores are combined.  As
every operator has arguments, no pass drops any of them.  A positional operator with weights is
never parsed; its weights would be printed among its arguments and could be taken for terms.
-/

namespace RankedRetrieval.Query

variable {α : Type}

/-- A text without the characters that end a stem, a word or an operator. -/
def Bare (text : String) : Prop :=
  ∀ c ∈ text.toList, c ∉ [' ', '.', '(', ')']

instance decidableBare (text : String) : Decidable (Bare text) :=
  List.decidableBAll (fun c => c ∉ [' ', '.', '(', ')']) text.toList

/-- An operator and arguments that it can combine, whatever weights they have. -/
structure CombinableNode (op : Operator) (args : List (Query α)) : Prop where
  /-- There are arguments. -/
  args_ne_nil : args ≠ []
  /-- A single argument is scored. -/
  single : op = .score → args.length = 1
  /-- Distances are positive. -/
  distance : ∀ n, op = .near n ∨ op = .window n → 0 < n
  /-- What is merged or scored is positional. -/
  positional : op.isPositional = true ∨ op = .score → ∀ q ∈ args, q.isPositional = true

namespace CombinableNode

variable {args : List (Query α)}

theorem near {n : Nat} (positive : 0 < n) (some_arg : args ≠ [])
    (kinds : ∀ q ∈ args, q.isPositional = true) : CombinableNode (.near n) args where
  args_ne_nil := some_arg
  single is_score := by simp at is_score
  distance m same := by
    rcases same with same | same
    · exact Operator.near.inj same ▸ positive
    · simp at same
  positional _ := kinds

theorem score {q : Query α} (kind : q.isPositional = true) : CombinableNode .score [q] where
  args_ne_nil := List.cons_ne_nil q []
  single _ := rfl
  distance n same := by simp at same
  positional _ := List.forall_mem_singleton.2 kind

theorem structural {op : Operator} (structural : op.isPositional = false) (not_score : op ≠ .score)
    (some_arg : args ≠ []) : CombinableNode op args where
  args_ne_nil := some_arg
  single is_score := absurd is_score not_score
  distance n same := by rcases same with rfl | rfl <;> simp [Operator.isPositional] at structural
  positional asks := by
    rcases asks with positional | is_score
    · exact absurd (structural.symm.trans positional) Bool.false_ne_true
    · exact absurd is_score not_score

end CombinableNode

/-- An operator and arguments that it can combine, without weights for what is merged. -/
structure ProperNode (op : Operator) (args : List (Query α)) (weights : List α) : Prop
    extends CombinableNode op args where
  /-- What is merged has no weights. -/
  weightless : op.isPositional = true → weights = []

/-- A query whose operators combine what they can combine, over bare stems and fields, with any
weights. -/
inductive Combinable : Query α → Prop where
  /-- A bare stem in a bare field. -/
  | term {stem field : String} (stem_bare : Bare stem) (field_bare : Bare field) :
      Combinable (term stem field)
  /-- An operator over combinable arguments. -/
  | apply {op : Operator} {args : List (Query α)} {weights : List α}
      (node : CombinableNode op args) (args_combinable : ∀ q ∈ args, Combinable q) :
      Combinable (apply op args weights)

/-- A combinable query whose positional operators have no weights. -/
inductive Proper : Query α → Prop where
  /-- A bare stem in a bare field. -/
  | term {stem field : String} (stem_bare : Bare stem) (field_bare : Bare field) :
      Proper (term stem field)
  /-- An operator over proper arguments. -/
  | apply {op : Operator} {args : List (Query α)} {weights : List α}
      (node : ProperNode op args weights) (args_proper : ∀ q ∈ args, Proper q) :
      Proper (apply op args weights)

namespace Proper

theorem of_apply {op : Operator} {args : List (Query α)} {weights : List α}
    (proper : Proper (Query.apply op args weights)) :
    ProperNode op args weights ∧ ∀ q ∈ args, Proper q := by
  cases proper with
  | apply node args_proper => exact ⟨node, args_proper⟩

theorem isChildless_eq_false {q : Query α} (proper : Proper q) : q.isChildless = false := by
  cases proper with
  | term => rfl
  | @apply op args weights node _ =>
    cases args with
    | nil => exact absurd rfl node.args_ne_nil
    | cons q args => rfl

/-- Only a positional query is scored. -/
theorem of_score {args : List (Query α)} {weights : List α}
    (proper : Proper (Query.apply .score args weights)) :
    ∃ q, args = [q] ∧ q.isPositional = true ∧ Proper q := by
  obtain ⟨node, args_proper⟩ := proper.of_apply
  obtain ⟨q, rfl⟩ := List.length_eq_one_iff.1 (node.single rfl)
  exact ⟨q, rfl, node.positional (.inr rfl) q List.mem_cons_self, args_proper q List.mem_cons_self⟩

theorem of_collapsed? {q inner : Query α} (proper : Proper q)
    (collapses : q.collapsed? = some inner) : Proper inner := by
  obtain ⟨op, weights, rfl, -, -⟩ := collapsed?_eq_some collapses
  exact proper.of_apply.2 inner List.mem_cons_self

theorem collapseOuter (q : Query α) (proper : Proper q) : Proper q.collapseOuter := by
  cases collapses : q.collapsed? with
  | none => rwa [collapseOuter_of_none collapses]
  | some inner =>
    have smaller := size_collapsed?_lt collapses
    rw [collapseOuter_of_some collapses]
    exact collapseOuter inner (proper.of_collapsed? collapses)
termination_by q.size

end Proper

/-! ### Tidying -/

/-- What a pass puts in the place of an argument. -/
def tidied (q : Query α) : Query α :=
  q.collapsed?.getD q.tidy

/-- Where every argument has arguments of its own, none of them is dropped. -/
theorem tidyArgs_eq_map {args : List (Query α)}
    (none_childless : ∀ q ∈ args, q.isChildless = false) : tidyArgs args = args.map tidied := by
  induction args with
  | nil => rfl
  | cons q args ih =>
    obtain ⟨head, tail⟩ := List.forall_mem_cons.1 none_childless
    rw [tidyArgs, head, if_neg (by decide), ih tail, List.map_cons, tidied]
    cases q.collapsed? <;> rfl

theorem isPositional_tidied (q : Query α) : q.tidied.isPositional = q.isPositional := by
  rw [tidied]
  cases collapses : q.collapsed? with
  | none => exact isPositional_tidy q
  | some inner => exact isPositional_collapsed? collapses

theorem ProperNode.tidy {op : Operator} {args : List (Query α)} {weights : List α}
    (node : ProperNode op args weights) :
    ProperNode op (args.map tidied) (tidyWeights args weights) where
  args_ne_nil := by simpa using node.args_ne_nil
  single is_score := by rw [List.length_map, node.single is_score]
  distance := node.distance
  positional asks := List.forall_mem_map.2 fun q hq => by
    rw [isPositional_tidied, node.positional asks q hq]
  weightless positional := by rw [node.weightless positional, tidyWeights_nil]

namespace Proper

variable {q : Query α}

theorem tidy_apply {op : Operator} {args : List (Query α)} {weights : List α}
    (args_proper : ∀ q ∈ args, Proper q) : (Query.apply op args weights).tidy =
      Query.apply op (args.map tidied) (tidyWeights args weights) := by
  rw [Query.tidy, tidyArgs_eq_map fun q hq => (args_proper q hq).isChildless_eq_false]

theorem tidied_of_tidy (proper : Proper q) (tidy : Proper q.tidy) : Proper q.tidied := by
  rw [Query.tidied]
  cases collapses : q.collapsed? with
  | none => exact tidy
  | some inner => exact proper.of_collapsed? collapses

theorem tidy (proper : Proper q) : Proper q.tidy := by
  induction proper with
  | term stem_bare field_bare => exact .term stem_bare field_bare
  | apply node args_proper ih =>
    rw [tidy_apply args_proper]
    exact .apply node.tidy (List.forall_mem_map.2 fun q hq =>
      (args_proper q hq).tidied_of_tidy (ih q hq))

theorem tidied (proper : Proper q) : Proper q.tidied :=
  proper.tidied_of_tidy proper.tidy

theorem pass (proper : Proper q) : Proper q.pass :=
  (collapseOuter q proper).tidy

theorem passes (fuel : Nat) (proper : Proper q) : Proper (passes fuel q) := by
  induction fuel generalizing q with
  | zero => exact proper
  | succ fuel ih =>
    rw [Query.passes]
    split
    · exact proper.pass
    · exact ih proper.pass

/-- Cleaning keeps a query proper. -/
theorem cleanup (proper : Proper q) : Proper q.cleanup :=
  proper.passes q.size

/-! ### What cleaning keeps -/

/-- A relation between a query and what it may become: a query may stay, it may change in several
steps, an operator may give way to its only argument, and arguments may change. -/
structure KeptByCleaning (R : Query α → Query α → Prop) : Prop where
  /-- A query may stay as it is. -/
  refl : ∀ q, R q q
  /-- Steps may follow one another. -/
  trans : ∀ q r s, R q r → R r s → R q s
  /-- An operator may give way to its only argument. -/
  collapse : ∀ q inner, Proper q → q.collapsed? = some inner → R q inner
  /-- Arguments may change, and weights go with them. -/
  congr : ∀ op args args' weights weights', Proper (Query.apply op args weights) →
    Proper (Query.apply op args' weights') → List.Forall₂ R args args' →
    R (Query.apply op args weights) (Query.apply op args' weights')

section Related

variable {R : Query α → Query α → Prop}

theorem related_collapseOuter (kept : KeptByCleaning R) (q : Query α) (proper : Proper q) :
    R q q.collapseOuter := by
  cases collapses : q.collapsed? with
  | none =>
    rw [collapseOuter_of_none collapses]
    exact kept.refl q
  | some inner =>
    have smaller := size_collapsed?_lt collapses
    rw [collapseOuter_of_some collapses]
    exact kept.trans q inner _ (kept.collapse q inner proper collapses)
      (related_collapseOuter kept inner (proper.of_collapsed? collapses))
termination_by q.size

theorem related_tidy (kept : KeptByCleaning R) (proper : Proper q) : R q q.tidy := by
  induction proper with
  | term => exact kept.refl _
  | @apply op args weights node args_proper ih =>
    have whole : Proper (Query.apply op args weights) := .apply node args_proper
    have tidied_args : List.Forall₂ R args (args.map Query.tidied) := by
      refine List.forall₂_map_right_iff.2 (List.forall₂_same.2 fun q hq => ?_)
      rw [Query.tidied]
      cases collapses : q.collapsed? with
      | none => exact ih q hq
      | some inner => exact kept.collapse q inner (args_proper q hq) collapses
    have whole_tidy := whole.tidy
    rw [tidy_apply args_proper] at whole_tidy ⊢
    exact kept.congr op args _ weights _ whole whole_tidy tidied_args

theorem related_pass (kept : KeptByCleaning R) (proper : Proper q) : R q q.pass :=
  kept.trans q _ _ (related_collapseOuter kept q proper)
    (related_tidy kept (Proper.collapseOuter q proper))

theorem related_passes (kept : KeptByCleaning R) (fuel : Nat) (proper : Proper q) :
    R q (Query.passes fuel q) := by
  induction fuel generalizing q with
  | zero => exact kept.refl q
  | succ fuel ih =>
    rw [Query.passes]
    split
    · exact related_pass kept proper
    · exact kept.trans q _ _ (related_pass kept proper) (ih proper.pass)

/-- What holds of every step of cleaning holds of cleaning. -/
theorem related_cleanup (kept : KeptByCleaning R) (proper : Proper q) : R q q.cleanup :=
  related_passes kept q.size proper

end Related

end Proper

end RankedRetrieval.Query
