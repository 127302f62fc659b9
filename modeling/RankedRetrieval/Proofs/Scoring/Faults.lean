import Mathlib.Data.List.Basic
import RankedRetrieval.Proofs.Scoring.Building

/-!
# Faults of queries

Whether a query has a scoring tree is a matter of its operators and its fields.  No index is
asked: what a term or a positional operator finds changes neither the field of its list nor
whether the model supports an operator.

## Main Definitions

* `Query.positionalField` — the field of a positional query, or why it has none
* `Query.fault?` — why a query has no scoring tree

## Main Results

* `Query.map_field_positional` — over any index a positional query lies in its field
* `Query.failure?_scoringTree` — over any index building fails with the fault of the query

## Design Notes

Repeats are folded by their texts before anything is built, and a repeat with another fault than
the argument that it is folded into is never looked at.  The fault of a query therefore folds the
faults of its arguments in the same way, and folding does not look at what it folds
(`Argument.forOperator_map`).
-/

namespace RankedRetrieval

variable {α : Type}

/-! ### Folding without looking -/

namespace Argument

variable {β γ : Type}

/-- An argument of another kind with the same key, weight and count. -/
def map (g : β → γ) (f : Argument α β) : Argument α γ :=
  ⟨f.key?, g f.item, f.weight, f.count⟩

variable [Scalar α] (g : β → γ)

theorem ofWeights_map (items : List (Option String × β)) (weights : List α) :
    ofWeights (items.map fun entry => (entry.1, g entry.2)) weights =
      (ofWeights items weights).map (map g) := by
  induction items generalizing weights with
  | nil => rfl
  | cons entry items ih =>
    cases weights with
    | nil | cons w weights =>
      rw [List.map_cons, ofWeights, ofWeights, List.map_cons, ih]
      rfl

theorem foldInto_map (repeated : Argument α β) (args : List (Argument α β)) :
    foldInto (repeated.map g) (args.map (map g)) = (foldInto repeated args).map (map g) := by
  induction args with
  | nil => rfl
  | cons first rest ih =>
    rw [List.map_cons, foldInto, foldInto, ih, apply_ite (List.map (map g))]
    rfl

theorem foldl_foldInto_map (args folded : List (Argument α β)) :
    (args.map (map g)).foldl (fun folded f => foldInto f folded) (folded.map (map g)) =
      (args.foldl (fun folded f => foldInto f folded) folded).map (map g) := by
  induction args generalizing folded with
  | nil => rfl
  | cons first rest ih =>
    rw [List.map_cons, List.foldl_cons, List.foldl_cons, foldInto_map, ih]

/-- The arguments that an operator scores do not depend on what they are. -/
theorem forOperator_map (op : Operator) (items : List (Option String × β)) (weights : List α) :
    forOperator op (items.map fun entry => (entry.1, g entry.2)) weights =
      (forOperator op items weights).map (map g) := by
  rw [forOperator, forOperator, ofWeights_map]
  split
  · exact foldl_foldInto_map g (ofWeights items weights) []
  · rfl

end Argument

namespace Query

variable [Numeral α]

/-! ### Fields of positional queries -/

mutual
/-- The field of a positional query, or why it has none. -/
def positionalField : Query α → Except QueryError String
  | term _ field => .ok field
  | apply op args weights =>
    if op.isPositional then sharedField op none args
    else .error (.notPositional (apply op args weights).text)

/-- The field that the arguments of an operator share with the first of them, if that one is
known. -/
def sharedField (op : Operator) : Option String → List (Query α) → Except QueryError String
  | first, [] => .ok (first.getD "")
  | first, q :: qs =>
    match positionalField q with
    | .error e => .error e
    | .ok own =>
      let field := first.getD own
      if field = own then sharedField op (some field) qs
      else .error (.fieldMismatch op.text field own)
end

mutual
/-- Over any index a positional query lies in its field. -/
theorem map_field_positional (index : Index) :
    (q : Query α) → (q.positional index).map InvertedList.field = q.positionalField
  | term stem field => rfl
  | apply op args weights => by
    rw [positional, positionalField]
    split
    · rw [← map_field_positionalArgs index op none args]
      cases positionalArgs index op none args <;> rfl
    · rfl

theorem map_field_positionalArgs (index : Index) (op : Operator) (first : Option String) :
    (qs : List (Query α)) →
      (positionalArgs index op first qs).map (fun lists => first.getD (merge op lists).field) =
        sharedField op first qs
  | [] => rfl
  | q :: qs => by
    rw [positionalArgs, sharedField, ← map_field_positional index q]
    cases q.positional index with
    | error e => rfl
    | ok list =>
      by_cases same : first.getD list.field = list.field
      · -- from here on the field is known, whichever argument it came from
        simp only [Except.map, if_pos same]
        rw [← map_field_positionalArgs index op (some (first.getD list.field)) qs]
        cases positionalArgs index op (some (first.getD list.field)) qs <;> rfl
      · simp only [Except.map, if_neg same]
end

/-! ### Faults -/

variable [Scalar α]

mutual
/-- Why a query has no scoring tree. -/
def fault? (model : RetrievalModel α) : Query α → Option QueryError
  | term _ _ => if model.supports .score then none else some (unsupported model .score)
  | apply op args weights =>
    if op.isPositional then
      if model.supports .score then (apply op args weights).positionalField.failure?
      else some (unsupported model .score)
    else if !model.supports op then some (unsupported model op)
    else if op = .score then
      match args with
      | [] => some (.notPositional (apply op args weights).text)
      | inner :: _ => inner.positionalField.failure?
    else (Argument.forOperator op (faults model args) weights).findSome? Argument.item

/-- For each of some queries the text of its repeats and its fault. -/
def faults (model : RetrievalModel α) : List (Query α) → List (Option String × Option QueryError)
  | [] => []
  | q :: qs => (q.repeatKey?, fault? model q) :: faults model qs
end

omit [Scalar α] in
theorem failure?_scoringLeaf (index : Index) (q : Query α) (qtf : Nat) :
    (q.scoringLeaf index qtf).failure? = q.positionalField.failure? := by
  rw [scoringLeaf, Except.failure?_map, ← map_field_positional index q, Except.failure?_map]

omit [Numeral α] [Scalar α] in
/-- The first argument that fails decides. -/
theorem failure?_buildAll (args : List (Argument α (Nat → Except QueryError (ScoringTree α)))) :
    (buildAll args).failure? = args.findSome? fun f => (f.item f.count).failure? := by
  induction args with
  | nil => rfl
  | cons f args ih =>
    rw [buildAll, List.findSome?_cons]
    cases f.item f.count with
    | error e => rfl
    | ok tree =>
      rw [Except.failure?_ok]
      dsimp only
      rw [Except.failure?_map, ih]

mutual
/-- Building fails with the fault of the query, whatever the index and the count. -/
theorem failure?_build (index : Index) (model : RetrievalModel α) :
    (q : Query α) → (qtf : Nat) → (q.build index model qtf).failure? = q.fault? model
  | term stem field, qtf => by
    rw [build.eq_def, fault?.eq_def]
    dsimp only
    split
    · exact failure?_scoringLeaf index (term stem field) qtf
    · rfl
  | apply op args weights, qtf => by
    rw [build.eq_def, fault?.eq_def]
    dsimp only
    split
    · split
      · exact failure?_scoringLeaf index (apply op args weights) qtf
      · rfl
    split
    · rfl
    split
    · cases args with
      | nil => rfl
      | cons inner rest => exact failure?_scoringLeaf index inner qtf
    -- an argument is built with the count of its repeats, on which its fault does not depend
    have faults_eq (n : Nat) := failures_builders index model args n
    have same_counts : ∀ entry ∈ builders index model args, ∀ n,
        (entry.2 n).failure? = (entry.2 1).failure? := by
      intro entry hentry n
      have both := (faults_eq n).trans (faults_eq 1).symm
      exact (Prod.mk.inj (List.map_inj_left.1 both entry hentry)).2
    have folded : Argument.forOperator op (faults model args) weights =
        (Argument.forOperator op (builders index model args) weights).map
          (Argument.map fun item => (item 1).failure?) := by
      rw [← faults_eq 1]
      exact Argument.forOperator_map
        (fun item : Nat → Except QueryError (ScoringTree α) => (item 1).failure?) op _ weights
    rw [Except.failure?_map, failure?_buildAll, folded, List.findSome?_map,
      ← List.head?_filterMap, ← List.head?_filterMap]
    refine congrArg List.head? (List.filterMap_congr fun f hf => ?_)
    obtain ⟨entry, hentry, same⟩ := List.mem_map.1 (Argument.item_mem_forOperator hf)
    show (f.item f.count).failure? = (f.item 1).failure?
    rw [← same]
    exact same_counts entry hentry f.count

theorem failures_builders (index : Index) (model : RetrievalModel α) :
    (qs : List (Query α)) → (n : Nat) →
      (builders index model qs).map (fun entry => (entry.1, (entry.2 n).failure?)) =
        faults model qs
  | [], _ => rfl
  | q :: qs, n => by
    rw [builders, faults, List.map_cons, failure?_build index model q n,
      failures_builders index model qs n]
end

/-- Over any index building a scoring tree fails with the fault of the query. -/
theorem failure?_scoringTree (index : Index) (model : RetrievalModel α) (q : Query α) :
    (q.scoringTree index model).failure? = q.fault? model :=
  failure?_build index model q 1

end Query

end RankedRetrieval
