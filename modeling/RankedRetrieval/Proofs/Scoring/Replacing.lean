import RankedRetrieval.Proofs.Positional.Single
import RankedRetrieval.Proofs.Scoring.Ranks

/-!
# Cleaning and meaning

A step of cleaning puts a query in the place of another one that it cannot be told apart from: a
scoring tree of the one matches the documents of the other and, under the Boolean models, scores
them alike.

## Main Definitions

* `Query.Replaces` — a query that may stand in the place of another one

## Main Results

* `Query.Proper.replaces_cleanup` — what is left by cleaning may stand in the place of the query

## Design Notes

A query that has no fault must not get one, but cleaning may take a fault away: an operator that
the model does not support can go away with its single argument kept.
-/

namespace RankedRetrieval.Query

open ScoringTree

variable {α : Type} [Scalar α] [Numeral α] {index : Index} {model : RetrievalModel α}

/-! ### Positional arguments -/

/-- The fault of a positional query is that of its list. -/
theorem fault?_of_isPositional (index : Index) {q : Query α} (kind : q.isPositional = true) :
    q.fault? model = if model.supports .score then (q.positional index).failure?
      else some (unsupported model .score) := by
  cases q with
  | term stem field =>
    rw [fault?]
    rfl
  | apply op args weights =>
    rw [fault?.eq_def]
    dsimp only
    rw [isPositional] at kind
    rw [if_pos kind, ← map_field_positional index, Except.failure?_map]

/-- The fault of a scored query is that of its list. -/
theorem fault?_score (index : Index) (q : Query α) (weights : List α) :
    (apply .score [q] weights).fault? model =
      if model.supports .score then (q.positional index).failure?
      else some (unsupported model .score) := by
  rw [fault?.eq_def]
  dsimp only
  rw [if_neg (by decide), if_pos rfl, ← map_field_positional index, Except.failure?_map]
  cases model.supports .score <;> rfl

omit [Scalar α] in
/-- An operator sees nothing of its arguments but their lists. -/
theorem positionalArgs_congr {op : Operator} {qs rs : List (Query α)} {first : Option String}
    (same : List.Forall₂ (fun q r => r.positional index = q.positional index) qs rs) :
    positionalArgs index op first rs = positionalArgs index op first qs := by
  induction same generalizing first with
  | nil => rfl
  | @cons q r qs rs head _ ih =>
    rw [positionalArgs, positionalArgs, head]
    cases q.positional index with
    | error e => rfl
    | ok list =>
      dsimp only
      rw [ih]

/-! ### Replacing -/

/-- A query that may stand in the place of another one over an index and under a model. -/
structure Replaces (index : Index) (model : RetrievalModel α) (q r : Query α) : Prop where
  /-- It is of the same kind. -/
  isPositional : r.isPositional = q.isPositional
  /-- A positional query has the same list. -/
  positional : q.isPositional = true → r.positional index = q.positional index
  /-- Every document has the same rank. -/
  rank : ∀ doc, r.rank index model doc = q.rank index model doc
  /-- It has no fault unless the other one has. -/
  fault? : q.fault? model = none → r.fault? model = none
  /-- It counts no other occurrences. -/
  counted : ∀ p ∈ r.counted, ∃ p' ∈ q.counted, ∀ doc, p.frequency index doc = p'.frequency index doc

namespace Replaces

variable {q r s : Query α}

theorem refl (q : Query α) : Replaces index model q q where
  isPositional := rfl
  positional _ := rfl
  rank _ := rfl
  fault? none_faulty := none_faulty
  counted p hp := ⟨p, hp, fun _ => rfl⟩

theorem trans (first : Replaces index model q r) (second : Replaces index model r s) :
    Replaces index model q s where
  isPositional := second.isPositional.trans first.isPositional
  positional kind :=
    (second.positional (first.isPositional.trans kind)).trans (first.positional kind)
  rank doc := (second.rank doc).trans (first.rank doc)
  fault? none_faulty := second.fault? (first.fault? none_faulty)
  counted p hp := by
    obtain ⟨p', hp', same⟩ := second.counted p hp
    obtain ⟨p'', hp'', same'⟩ := first.counted p' hp'
    exact ⟨p'', hp'', fun doc => (same doc).trans (same' doc)⟩

/-- A positional query may be replaced by one with the same list. -/
theorem of_positional (kind : q.isPositional = true) (other_kind : r.isPositional = true)
    (same : r.positional index = q.positional index) : Replaces index model q r where
  isPositional := other_kind.trans kind.symm
  positional _ := same
  rank doc := by
    rw [rank_of_isPositional index model doc other_kind, rank_of_isPositional index model doc kind,
      frequency, frequency, same]
  fault? := by
    rw [fault?_of_isPositional index kind, fault?_of_isPositional index other_kind, same]
    exact id
  counted p hp := by
    rw [counted_of_isPositional other_kind] at hp
    rw [counted_of_isPositional kind]
    obtain rfl := List.mem_singleton.1 hp
    exact ⟨q, List.mem_cons_self, fun doc => by rw [frequency, frequency, same]⟩

/-- What is scored may be replaced by what has the same list. -/
theorem of_score (weights other_weights : List α)
    (same : r.positional index = q.positional index) :
    Replaces index model (apply .score [q] weights) (apply .score [r] other_weights) where
  isPositional := rfl
  positional kind := absurd kind Bool.false_ne_true
  rank doc := by
    rw [Query.rank, Query.rank]
    show frequency index doc r = frequency index doc q
    rw [frequency, frequency, same]
  fault? := by
    rw [fault?_score index, fault?_score index, same]
    exact id
  counted p hp := by
    rw [Query.counted] at hp ⊢
    obtain rfl := List.mem_singleton.1 hp
    exact ⟨q, List.mem_cons_self, fun doc => by rw [frequency, frequency, same]⟩

section Structural

variable {op : Operator} {args args' : List (Query α)} {weights weights' : List α}

theorem map_rank_eq (replaced : List.Forall₂ (Replaces index model) args args') (doc : DocId) :
    args'.map (Query.rank index model doc) = args.map (Query.rank index model doc) := by
  induction replaced with
  | nil => rfl
  | cons head _ ih => rw [List.map_cons, List.map_cons, head.rank doc, ih]

/-- The arguments of a structural operator may be replaced. -/
theorem of_structural (structural : op.isPositional = false) (not_score : op ≠ .score)
    (args_proper : ∀ q ∈ args, Proper q) (args'_proper : ∀ q ∈ args', Proper q)
    (replaced : List.Forall₂ (Replaces index model) args args') :
    Replaces index model (apply op args weights) (apply op args' weights') where
  isPositional := rfl
  positional kind := absurd (structural.symm.trans kind) Bool.false_ne_true
  rank doc := by
    rw [rank_structural structural not_score, rank_structural structural not_score,
      map_rank_eq replaced doc]
  fault? := by
    rw [fault?_structural_iff (fun q hq => (args_proper q hq).recognisable) structural not_score,
      fault?_structural_iff (fun q hq => (args'_proper q hq).recognisable) structural not_score]
    rintro ⟨supported, none_faulty⟩
    refine ⟨supported, fun r hr => ?_⟩
    obtain ⟨q, hq, replaces⟩ := exists_of_forall₂ replaced.flip hr
    exact replaces.fault? (none_faulty q hq)
  counted p hp := by
    rw [counted_structural structural not_score] at hp ⊢
    obtain ⟨r, hr, counts⟩ := mem_countedAll.1 hp
    obtain ⟨q, hq, replaces⟩ := exists_of_forall₂ replaced.flip hr
    obtain ⟨p', hp', same⟩ := replaces.counted p counts
    exact ⟨p', mem_countedAll.2 ⟨q, hq, hp'⟩, same⟩

/-- Arguments may be replaced, and weights do not matter. -/
theorem congr (proper : Proper (apply op args weights)) (proper' : Proper (apply op args' weights'))
    (replaced : List.Forall₂ (Replaces index model) args args') :
    Replaces index model (apply op args weights) (apply op args' weights') := by
  obtain ⟨node, args_proper⟩ := proper.of_apply
  by_cases kind : op.isPositional = true
  · have listed := (List.forall₂_and_left args args').2 ⟨node.positional (.inl kind), replaced⟩
    have same_lists := listed.imp fun q r both => both.2.positional both.1
    refine of_positional kind kind ?_
    rw [Query.positional, Query.positional, if_pos kind, if_pos kind,
      positionalArgs_congr same_lists]
  have structural : op.isPositional = false := by simpa using kind
  by_cases is_score : op = .score
  · subst is_score
    obtain ⟨q, rfl, positional, -⟩ := proper.of_score
    obtain ⟨r, rfl, -, -⟩ := proper'.of_score
    obtain ⟨head, -⟩ := List.forall₂_cons.1 replaced
    exact of_score weights weights' (head.positional positional)
  · exact of_structural structural is_score args_proper proper'.of_apply.2 replaced

end Structural

/-- An operator may give way to its only argument. -/
theorem collapse (posted : index.WellPosted) {inner : Query α} (proper : Proper q)
    (collapses : q.collapsed? = some inner) : Replaces index model q inner := by
  obtain ⟨op, weights, rfl, not_score, kind⟩ := collapsed?_eq_some collapses
  obtain ⟨node, args_proper⟩ := proper.of_apply
  by_cases positional : op.isPositional = true
  · refine of_positional positional (kind.symm.trans positional) ?_
    exact (positional_single posted positional node.distance inner weights).symm
  have structural : op.isPositional = false := by simpa using positional
  exact {
    isPositional := kind.symm
    positional := fun kind => absurd (structural.symm.trans kind) Bool.false_ne_true
    rank := fun doc => by
      rw [rank_structural structural not_score, List.map_singleton, combinedRank_singleton]
    fault? := by
      rw [fault?_structural_iff (fun q hq => (args_proper q hq).recognisable) structural not_score]
      exact fun none_faulty => none_faulty.2 inner List.mem_cons_self
    counted := fun p hp => by
      rw [counted_structural structural not_score]
      exact ⟨p, mem_countedAll.2 ⟨inner, List.mem_cons_self, hp⟩, fun _ => rfl⟩ }

/-- What stands in the place of a query that can be scored can be scored. -/
theorem scoringTree_ok (replaces : Replaces index model q r) {tree : ScoringTree α}
    (built : q.scoringTree index model = .ok tree) :
    ∃ other, r.scoringTree index model = .ok other := by
  have none_faulty : q.fault? model = none := by
    rw [← failure?_scoringTree index, built]
    rfl
  rw [← Except.failure?_eq_none_iff, failure?_scoringTree]
  exact replaces.fault? none_faulty

/-- What bounds the occurrences that a query counts bounds those that are counted in its place. -/
theorem frequency_lt (replaces : Replaces index model q r) {doc : DocId} {bound : Nat}
    (small : ∀ p ∈ q.counted, p.frequency index doc < bound) :
    ∀ p ∈ r.counted, p.frequency index doc < bound := by
  intro p hp
  obtain ⟨p', hp', same⟩ := replaces.counted p hp
  rw [same doc]
  exact small p' hp'

end Replaces

/-- What is left by cleaning may stand in the place of a proper query. -/
theorem Proper.replaces_cleanup (posted : index.WellPosted) {q : Query α} (proper : Proper q) :
    Replaces index model q q.cleanup := by
  have kept : KeptByCleaning (Replaces index model) := {
    refl := Replaces.refl
    trans := fun _ _ _ first second => first.trans second
    collapse := fun _ _ proper collapses => Replaces.collapse posted proper collapses
    congr := fun _ _ _ _ _ proper proper' replaced => Replaces.congr proper proper' replaced }
  exact related_cleanup kept proper

end RankedRetrieval.Query
