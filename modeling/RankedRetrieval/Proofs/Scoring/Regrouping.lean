import RankedRetrieval.Proofs.Exact.Sums
import RankedRetrieval.Proofs.Scoring.Repeats

/-!
# Regrouping of repeated arguments

What is computed of arguments one after the other is not changed by folding, if it comes out the
same for two repeats as for the one argument that they are folded into.

## Main Definitions

* `Argument.merge` — an argument with a repeat of it
* `Argument.Repeats` — when folding takes an argument for a repeat of another one
* `Argument.KeptByMerging` — a property that two repeats hand on to what they are folded into

## Main Results

* `Argument.foldl_map_forOperator` — folding regroups what is computed of arguments
* `Argument.forall_mem_forOperator` — what repeats keep holds of the arguments that are left
* `Argument.sum_weights_forOperator` — folding does not change the sum of the weights

## Design Notes

Folding adds a repeat to an argument that may stand anywhere among the others, so the operation
has to be commutative and associative.  What is known of the arguments is a parameter: a power
can only be split where the weights are positive.
-/

namespace RankedRetrieval

namespace Argument

variable {α β γ : Type} [Scalar α]

/-- An argument with a repeat of it. -/
def merge (f repeated : Argument α β) : Argument α β :=
  { f with weight := f.weight + repeated.weight, count := f.count + repeated.count }

/-- An argument repeats another one when it is recognised by the same text. -/
def Repeats (repeated f : Argument α β) : Prop :=
  repeated.key?.isSome ∧ f.key? = repeated.key?

instance repeatsDecidable (repeated f : Argument α β) : Decidable (repeated.Repeats f) :=
  inferInstanceAs (Decidable (_ ∧ _))

theorem foldInto_cons (repeated f : Argument α β) (rest : List (Argument α β)) :
    foldInto repeated (f :: rest) =
      if repeated.Repeats f then f.merge repeated :: rest else f :: foldInto repeated rest := rfl

/-- What holds of two repeats holds of the argument that they are folded into. -/
def KeptByMerging (holds : Argument α β → Prop) : Prop :=
  ∀ f repeated, holds f → holds repeated → repeated.Repeats f → holds (f.merge repeated)

section Kept

variable {holds : Argument α β → Prop}

theorem forall_mem_foldInto (kept : KeptByMerging holds) {repeated : Argument α β}
    {args : List (Argument α β)} (repeated_holds : holds repeated)
    (all_hold : ∀ f ∈ args, holds f) : ∀ f ∈ foldInto repeated args, holds f := by
  induction args with
  | nil => exact List.forall_mem_singleton.2 repeated_holds
  | cons first rest ih =>
    obtain ⟨first_holds, rest_hold⟩ := List.forall_mem_cons.1 all_hold
    rw [foldInto_cons]
    split
    · rename_i repeats
      exact List.forall_mem_cons.2
        ⟨kept first repeated first_holds repeated_holds repeats, rest_hold⟩
    · exact List.forall_mem_cons.2 ⟨first_holds, ih rest_hold⟩

theorem forall_mem_foldRepeats (kept : KeptByMerging holds) {args : List (Argument α β)}
    (all_hold : ∀ f ∈ args, holds f) : ∀ f ∈ foldRepeats args, holds f := by
  induction args using List.reverseRecOn with
  | nil => simp [foldRepeats]
  | append_singleton args last ih =>
    obtain ⟨earlier_hold, last_holds⟩ := List.forall_mem_append.1 all_hold
    rw [foldRepeats_append_singleton]
    exact forall_mem_foldInto kept (List.forall_mem_singleton.1 last_holds) (ih earlier_hold)

/-- What repeats keep holds of the arguments that are left. -/
theorem forall_mem_forOperator (kept : KeptByMerging holds) {items : List (Option String × β)}
    {weights : List α} (all_hold : ∀ f ∈ ofWeights items weights, holds f) (op : Operator) :
    ∀ f ∈ forOperator op items weights, holds f := by
  rw [forOperator]
  split
  · exact forall_mem_foldRepeats kept all_hold
  · exact all_hold

/-! ### Folding and computing -/

variable (op : γ → γ → γ) [Std.Commutative op] [Std.Associative op] {value : Argument α β → γ}

theorem foldl_map_foldInto {repeated : Argument α β} {args : List (Argument α β)}
    (splits : ∀ f ∈ args, repeated.Repeats f →
      value (f.merge repeated) = op (value f) (value repeated)) (start : γ) :
    ((foldInto repeated args).map value).foldl op start =
      op ((args.map value).foldl op start) (value repeated) := by
  induction args generalizing start with
  | nil => rfl
  | cons first rest ih =>
    obtain ⟨first_splits, rest_splits⟩ := List.forall_mem_cons.1 splits
    rw [foldInto_cons]
    split
    · rename_i repeats
      -- the repeat moves to the argument that it repeats from its place behind all others
      have assoc (a b c : γ) : op (op a b) c = op a (op b c) := Std.Associative.assoc a b c
      have comm (a b : γ) : op a b = op b a := Std.Commutative.comm a b
      rw [List.map_cons, List.map_cons, List.foldl_cons, List.foldl_cons, first_splits repeats,
        ← assoc, comm _ (value repeated), List.foldl_assoc, comm _ (value repeated)]
    · rw [List.map_cons, List.foldl_cons, ih rest_splits, List.map_cons, List.foldl_cons]

/-- What is computed of arguments one after the other, folding regroups. -/
theorem foldl_map_foldRepeats (kept : KeptByMerging holds) {args : List (Argument α β)}
    (all_hold : ∀ f ∈ args, holds f)
    (splits : ∀ f repeated, holds f → holds repeated → repeated.Repeats f →
      value (f.merge repeated) = op (value f) (value repeated)) (start : γ) :
    ((foldRepeats args).map value).foldl op start = (args.map value).foldl op start := by
  induction args using List.reverseRecOn with
  | nil => rfl
  | append_singleton args last ih =>
    obtain ⟨earlier_hold, last_holds⟩ := List.forall_mem_append.1 all_hold
    rw [foldRepeats_append_singleton, List.map_append, List.foldl_append, ← ih earlier_hold]
    refine foldl_map_foldInto op (fun f hf repeats => splits f last ?_ ?_ repeats) start
    · exact forall_mem_foldRepeats kept earlier_hold f hf
    · exact List.forall_mem_singleton.1 last_holds

/-- A fold over the arguments of any operator does not depend on whether repeats have been
merged. -/
theorem foldl_map_forOperator (kept : KeptByMerging holds) {items : List (Option String × β)}
    {weights : List α} (all_hold : ∀ f ∈ ofWeights items weights, holds f)
    (splits : ∀ f repeated, holds f → holds repeated → repeated.Repeats f →
      value (f.merge repeated) = op (value f) (value repeated)) (operator : Operator) (start : γ) :
    ((forOperator operator items weights).map value).foldl op start =
      ((ofWeights items weights).map value).foldl op start := by
  rw [forOperator]
  split
  · exact foldl_map_foldRepeats op kept all_hold splits start
  · rfl

end Kept

/-! ### Weights and counts -/

section Weights

variable {items : List (Option String × β)} {weights : List α}

/-- Every argument has a weight of its own or weighs one, and stands for itself. -/
theorem weight_of_mem_ofWeights {f : Argument α β} (member : f ∈ ofWeights items weights) :
    (f.weight ∈ weights ∨ f.weight = Scalar.ofNat 1) ∧ f.count = 1 := by
  induction items generalizing weights with
  | nil => simp [ofWeights] at member
  | cons head items ih =>
    cases weights with
    | nil =>
      rw [ofWeights] at member
      rcases List.mem_cons.1 member with rfl | later
      · exact ⟨.inr rfl, rfl⟩
      · exact ih later
    | cons w weights =>
      rw [ofWeights] at member
      rcases List.mem_cons.1 member with rfl | later
      · exact ⟨.inl List.mem_cons_self, rfl⟩
      · exact (ih later).imp_left fun own => own.imp_left (List.mem_cons_of_mem w)

theorem weights_ofWeights (lengths : weights.length = items.length) :
    (ofWeights items weights).map Argument.weight = weights := by
  induction items generalizing weights with
  | nil =>
    rw [List.length_eq_zero_iff.1 lengths]
    rfl
  | cons head items ih =>
    cases weights with
    | nil => simp at lengths
    | cons w weights => rw [ofWeights, List.map_cons, ih (Nat.succ.inj lengths)]

/-- Every argument that is left stands for at least one. -/
theorem count_pos_of_mem_forOperator {op : Operator} {f : Argument α β}
    (member : f ∈ forOperator op items weights) : 0 < f.count := by
  have kept : KeptByMerging fun f : Argument α β => 0 < f.count :=
    fun f repeated positive _ _ => Nat.add_pos_left positive repeated.count
  refine forall_mem_forOperator kept (fun f hf => ?_) op f member
  rw [(weight_of_mem_ofWeights hf).2]
  exact Nat.one_pos

/-- What holds of one and of the weights, and is kept by sums, holds of the weights that are
left. -/
theorem weight_of_mem_forOperator {op : Operator} {holds : α → Prop}
    (one_holds : holds (Scalar.ofNat 1)) (add_holds : ∀ x y, holds x → holds y → holds (x + y))
    (all_hold : ∀ w ∈ weights, holds w) {f : Argument α β}
    (member : f ∈ forOperator op items weights) : holds f.weight := by
  have kept : KeptByMerging fun f : Argument α β => holds f.weight :=
    fun f repeated first second _ => add_holds f.weight repeated.weight first second
  refine forall_mem_forOperator kept (fun f hf => ?_) op f member
  rcases (weight_of_mem_ofWeights hf).1 with own | one
  · exact all_hold f.weight own
  · rw [one]
    exact one_holds

/-- Folding does not change the sum of the weights. -/
theorem sum_weights_forOperator [Scalar.ExactSums α] (op : Operator)
    (items : List (Option String × β)) (weights : List α) :
    Scalar.sum ((forOperator op items weights).map Argument.weight) =
      Scalar.sum ((ofWeights items weights).map Argument.weight) := by
  have kept : KeptByMerging fun _ : Argument α β => True := fun _ _ _ _ _ => trivial
  exact foldl_map_forOperator _ kept (fun _ _ => trivial) (fun _ _ _ _ _ => rfl) op _

end Weights

end Argument

end RankedRetrieval
