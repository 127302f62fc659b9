import RankedRetrieval.Proofs.Query.PositionalTexts
import RankedRetrieval.Proofs.Scoring.Folding
import RankedRetrieval.Proofs.Scoring.PartialFolding

/-!
# Arguments and their repeats

Folding drops an argument only where another one with its key stays, and under a proper operator
that one scores the same positional query.  What can be said of the faults of the two needs less
than that.

## Main Definitions

* `Argument.StandsFor` — an argument that is another one, or that the other one repeats
* `Query.scoredArgs` — the arguments of an operator that are left by folding
* `Query.ScoresLike` — queries that score the same

## Main Results

* `Argument.exists_standsFor` — for every argument one stays that stands for it
* `Query.build_structural_iff` — when a structural operator has a scoring tree
* `Query.Proper.exists_scoredArg` — for every argument one is left that scores the same
* `Query.fault?_eq_none_of_repeatKey?` — repeats of an argument without a fault have none
* `Query.fault?_structural_iff_scoredArgs`, `Query.fault?_structural_iff` — when a structural
  operator has no fault

## Design Notes

Folding does not look at what it folds, so the scoring trees and the faults of arguments are
folded as the arguments themselves are.
-/

namespace RankedRetrieval.Argument

variable {α β : Type}

/-- An argument is the other one up to weights and counts, or the other one repeats it. -/
def StandsFor (f : Argument α β) (entry : Option String × β) : Prop :=
  f.entry = entry ∨ entry.1.isSome ∧ f.key? = entry.1

theorem StandsFor.trans {f g : Argument α β} {entry : Option String × β}
    (first : f.StandsFor g.entry) (second : g.StandsFor entry) : f.StandsFor entry := by
  rcases first with same | ⟨keyed, same_key⟩
  · rcases second with rfl | ⟨keyed, same_key⟩
    · exact .inl same
    · exact .inr ⟨keyed, (congrArg Prod.fst same).trans same_key⟩
  · rcases second with rfl | ⟨other_keyed, other_key⟩
    · exact .inr ⟨keyed, same_key⟩
    · exact .inr ⟨other_keyed, same_key.trans other_key⟩

variable [Scalar α]

theorem exists_mem_ofWeights {items : List (Option String × β)} {entry : Option String × β}
    (member : entry ∈ items) (weights : List α) :
    ∃ f ∈ ofWeights items weights, f.entry = entry := by
  induction items generalizing weights with
  | nil => simp at member
  | cons head items ih =>
    obtain ⟨key?, item⟩ := head
    cases weights with
    | nil | cons w weights =>
      rw [ofWeights]
      rcases List.mem_cons.1 member with rfl | later
      · exact ⟨_, List.mem_cons_self, rfl⟩
      · obtain ⟨f, hf, same⟩ := ih later _
        exact ⟨f, List.mem_cons_of_mem _ hf, same⟩

/-- Folding an argument into others loses none of them. -/
theorem exists_mem_foldInto {repeated g : Argument α β} {args : List (Argument α β)}
    (member : g ∈ repeated :: args) : ∃ f ∈ foldInto repeated args, f.StandsFor g.entry := by
  induction args with
  | nil => exact ⟨g, member, .inl rfl⟩
  | cons first rest ih =>
    rw [foldInto]
    split
    · rename_i repeats
      -- the argument that it repeats stands for it from now on
      rcases List.mem_cons.1 member with rfl | earlier
      · exact ⟨_, List.mem_cons_self, .inr repeats⟩
      · rcases List.mem_cons.1 earlier with rfl | later
        · exact ⟨_, List.mem_cons_self, .inl rfl⟩
        · exact ⟨g, List.mem_cons_of_mem _ later, .inl rfl⟩
    · have elsewhere (member : g ∈ repeated :: rest) :
          ∃ f ∈ first :: foldInto repeated rest, f.StandsFor g.entry := by
        obtain ⟨f, hf, stands⟩ := ih member
        exact ⟨f, List.mem_cons_of_mem first hf, stands⟩
      rcases List.mem_cons.1 member with rfl | earlier
      · exact elsewhere List.mem_cons_self
      · rcases List.mem_cons.1 earlier with rfl | later
        · exact ⟨g, List.mem_cons_self, .inl rfl⟩
        · exact elsewhere (List.mem_cons_of_mem repeated later)

theorem exists_mem_foldRepeats {args : List (Argument α β)} {g : Argument α β}
    (member : g ∈ args) : ∃ f ∈ foldRepeats args, f.StandsFor g.entry := by
  induction args using List.reverseRecOn with
  | nil => simp at member
  | append_singleton args last ih =>
    rw [foldRepeats_append_singleton]
    rcases List.mem_append.1 member with earlier | is_last
    · obtain ⟨f, hf, stands⟩ := ih earlier
      obtain ⟨f', hf', stands'⟩ := exists_mem_foldInto (List.mem_cons_of_mem last hf)
      exact ⟨f', hf', stands'.trans stands⟩
    · obtain rfl := List.mem_singleton.1 is_last
      exact exists_mem_foldInto List.mem_cons_self

/-- For every argument of an operator one stays that stands for it. -/
theorem exists_standsFor {items : List (Option String × β)} {entry : Option String × β}
    (member : entry ∈ items) (op : Operator) (weights : List α) :
    ∃ f ∈ forOperator op items weights, f.StandsFor entry := by
  obtain ⟨g, hg, rfl⟩ := exists_mem_ofWeights member weights
  rw [forOperator]
  split
  · exact exists_mem_foldRepeats hg
  · exact ⟨g, hg, .inl rfl⟩

end RankedRetrieval.Argument

namespace RankedRetrieval.Query

variable {α : Type} [Scalar α] [Numeral α]

/-! ### Arguments that are left -/

/-- The arguments of an operator that are left by folding. -/
def scoredArgs (op : Operator) (args : List (Query α)) (weights : List α) :
    List (Argument α (Query α)) :=
  Argument.forOperator op (args.map fun q => (q.repeatKey?, q)) weights

theorem faults_eq_map (model : RetrievalModel α) (args : List (Query α)) :
    faults model args =
      (args.map fun q => (q.repeatKey?, q)).map fun entry => (entry.1, fault? model entry.2) := by
  induction args with
  | nil => rfl
  | cons q args ih => rw [faults, ih, List.map_cons, List.map_cons]

/-- A structural operator has a scoring tree when it is supported and the arguments that are left
have theirs. -/
theorem build_structural_iff {index : Index} {model : RetrievalModel α} {op : Operator}
    {args : List (Query α)} {weights : List α} {qtf : Nat} {tree : ScoringTree α}
    (structural : op.isPositional = false) (not_score : op ≠ .score) :
    (apply op args weights).build index model qtf = .ok tree ↔
      model.supports op = true ∧ ∃ trees,
        List.Forall₂ (fun f t => f.item.build index model f.count = .ok t)
          (scoredArgs op args weights) trees ∧
        tree = .combine op trees ((scoredArgs op args weights).map Argument.weight) none := by
  rw [← buildFolding_foldsRepeats, buildFolding_structural_iff structural not_score]
  simp only [buildFolding_foldsRepeats]
  rfl

/-- Queries that are the same or score the same query, whatever their weights. -/
def ScoresLike (q r : Query α) : Prop :=
  q = r ∨ ∃ inner weights other_weights, q = apply .score [inner] weights ∧
    r = apply .score [inner] other_weights

theorem mem_of_scoredArg {op : Operator} {args : List (Query α)} {weights : List α}
    {f : Argument α (Query α)} (member : f ∈ scoredArgs op args weights) :
    f.item ∈ args ∧ f.key? = f.item.repeatKey? :=
  mem_of_argFoldedUnder Operator.foldsRepeats member

namespace Proper

variable {op : Operator} {args : List (Query α)} {weights : List α}

/-- For every argument one is left that scores the same. -/
theorem exists_scoredArg (args_proper : ∀ q ∈ args, Proper q) {q : Query α} (member : q ∈ args) :
    ∃ f ∈ scoredArgs op args weights, f.item.ScoresLike q := by
  have listed : (q.repeatKey?, q) ∈ args.map fun q => (q.repeatKey?, q) :=
    List.mem_map_of_mem member
  obtain ⟨f, hf, stands⟩ := Argument.exists_standsFor listed op weights
  obtain ⟨hitem, key_eq⟩ := mem_of_scoredArg hf
  refine ⟨f, hf, ?_⟩
  rcases stands with same | ⟨keyed, same_key⟩
  · exact .inl (Prod.mk.inj same).2
  · rw [key_eq] at same_key
    exact .inr (eq_of_repeatKey? (args_proper f.item hitem) (args_proper q member)
      (same_key ▸ keyed) same_key)

end Proper

/-! ### Faults of repeats -/

section Fields

omit [Scalar α]

mutual
/-- A query that has a field only merges occurrences. -/
theorem merging_of_positionalField {field : String} :
    (q : Query α) → q.positionalField = .ok field → q.Merging
  | .term _ _, _ => .term
  | .apply op args weights, found => by
    rw [positionalField] at found
    split at found
    · rename_i positional
      exact .apply positional (merging_of_sharedField op args found)
    · simp at found

theorem merging_of_sharedField {field : String} {first : Option String} (op : Operator) :
    (qs : List (Query α)) → sharedField op first qs = .ok field → ∀ q ∈ qs, q.Merging
  | [], _ => by simp
  | q :: qs, found => by
    rw [sharedField] at found
    split at found
    · simp at found
    · rename_i own evaluated
      dsimp only at found
      split at found
      · exact List.forall_mem_cons.2
          ⟨merging_of_positionalField q evaluated, merging_of_sharedField op qs found⟩
      · simp at found
end

end Fields

section Faults

variable {model : RetrievalModel α} {op : Operator} {args : List (Query α)} {weights : List α}

/-- Repeats of an argument without a fault have none. -/
theorem fault?_eq_none_of_repeatKey? {q r : Query α} (recognisable : q.Recognisable)
    (other_recognisable : r.Recognisable) (repeated : q.repeatKey?.isSome)
    (same : q.repeatKey? = r.repeatKey?) (none_faulty : fault? model q = none) :
    fault? model r = none := by
  obtain ⟨args, weights, rfl⟩ := exists_score_of_repeatKey? repeated
  obtain ⟨others, other_weights, rfl⟩ := exists_score_of_repeatKey? (same ▸ repeated)
  obtain ⟨inner, rfl, legible⟩ := recognisable args weights rfl
  obtain ⟨other, rfl, other_legible⟩ := other_recognisable others other_weights rfl
  have texts : inner.text = other.text := by
    simpa [repeatKey?, text] using same
  -- without a fault the query has a field, so it is known from its text
  have has_field : inner.positionalField.failure? = none := by
    rw [fault?.eq_def] at none_faulty
    simp only [Operator.isPositional, Bool.false_eq_true, if_false] at none_faulty
    split at none_faulty
    · simp at none_faulty
    · simpa using none_faulty
  obtain ⟨field, evaluated⟩ := Except.failure?_eq_none_iff.1 has_field
  obtain rfl := legible.eq_of_text other_legible (merging_of_positionalField inner evaluated) texts
  simpa [fault?, Operator.isPositional] using none_faulty

/-- A structural operator has no fault when it is supported and the arguments that are left have
none. -/
theorem fault?_structural_iff_scoredArgs (structural : op.isPositional = false)
    (not_score : op ≠ .score) : fault? model (apply op args weights) = none ↔
      model.supports op = true ∧ ∀ f ∈ scoredArgs op args weights, fault? model f.item = none := by
  have folded : Argument.forOperator op (faults model args) weights =
      (scoredArgs op args weights).map (Argument.map (fault? model)) := by
    rw [faults_eq_map]
    exact Argument.forOperator_map (fault? model) op _ weights
  rw [fault?.eq_def]
  dsimp only
  rw [if_neg (by simp [structural]), folded, List.findSome?_map]
  cases supported : model.supports op with
  | false => simp
  | true =>
    rw [if_neg (by decide), if_neg not_score, List.findSome?_eq_none_iff]
    exact (and_iff_right rfl).symm

/-- Where repeats can be compared, a structural operator has no fault when it is supported and its
arguments have none. -/
theorem fault?_structural_iff (recognisable : ∀ q ∈ args, q.Recognisable)
    (structural : op.isPositional = false) (not_score : op ≠ .score) :
    fault? model (apply op args weights) = none ↔
      model.supports op = true ∧ ∀ q ∈ args, fault? model q = none := by
  rw [fault?_structural_iff_scoredArgs structural not_score]
  refine and_congr_right fun _ => ⟨fun none_left q hq => ?_, fun none_faulty f hf =>
    none_faulty f.item (mem_of_scoredArg hf).1⟩
  have listed : (q.repeatKey?, q) ∈ args.map fun q => (q.repeatKey?, q) :=
    List.mem_map_of_mem hq
  obtain ⟨f, hf, stands⟩ : ∃ f ∈ scoredArgs op args weights, f.StandsFor (q.repeatKey?, q) :=
    Argument.exists_standsFor listed op weights
  obtain ⟨hitem, key_eq⟩ := mem_of_scoredArg hf
  rcases stands with same | ⟨keyed, same_key⟩
  · obtain rfl : f.item = q := (Prod.mk.inj same).2
    exact none_left f hf
  · rw [key_eq] at same_key
    exact fault?_eq_none_of_repeatKey? (recognisable f.item hitem) (recognisable q hq)
      (same_key ▸ keyed) same_key (none_left f hf)

end Faults

end RankedRetrieval.Query
