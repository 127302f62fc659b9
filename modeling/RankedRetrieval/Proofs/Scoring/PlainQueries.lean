import RankedRetrieval.Proofs.Query.Leaves
import RankedRetrieval.Proofs.Query.RoundTrip
import RankedRetrieval.Proofs.Scoring.Induction
import RankedRetrieval.Proofs.Scoring.Standing

/-!
# Repeats in plain queries

In a query of bare words that has weights only where scores are combined, arguments that are taken
for repeats of one another score the same positional query.

## Main Definitions

* `Query.Plain` — queries of bare words that have weights only where scores are combined
* `Query.standing` — what the scoring tree of a query says of a document

## Main Results

* `Query.Plain.scoredPart?_eq_of_repeatKey?` — repeats of an argument score the same positional
  query
* `Query.Plain.standing_eq_of_repeatKey?` — and say the same of every document

## Design Notes

What can be built has positional arguments in all of its positional parts.  So it is not asked for.
-/

namespace RankedRetrieval

/-- Where everything has a partner there is a list of partners. -/
theorem exists_forall₂ {β γ : Type} {R : β → γ → Prop} (xs : List β)
    (related : ∀ x ∈ xs, ∃ y, R x y) : ∃ ys, List.Forall₂ R xs ys := by
  induction xs with
  | nil => exact ⟨[], .nil⟩
  | cons x xs ih =>
    obtain ⟨first, others⟩ := List.forall_mem_cons.1 related
    obtain ⟨y, hy⟩ := first
    obtain ⟨ys, hys⟩ := ih others
    exact ⟨y :: ys, .cons hy hys⟩

/-- What has the same value place by place has the same list of values. -/
theorem map_eq_of_forall₂ {β γ δ : Type} {f : β → δ} {g : γ → δ} {xs : List β} {ys : List γ}
    (same : List.Forall₂ (fun x y => g y = f x) xs ys) : ys.map g = xs.map f := by
  induction same with
  | nil => rfl
  | cons first _ ih => rw [List.map_cons, List.map_cons, first, ih]

namespace Query

open ScoringTree

/-! ### Plain queries -/

section Plain

variable {α : Type}

/-- A query of bare words that has weights only where scores are combined. -/
inductive Plain : Query α → Prop where
  /-- A bare stem in a bare field. -/
  | term {stem field : String} (stem_bare : Bare stem) (field_bare : Bare field) :
      Plain (term stem field)
  /-- An operator that has no weights if it merges occurrences, or if it is a `score` that is
  written out. -/
  | apply {op : Operator} {args : List (Query α)} {weights : List α}
      (unweighted : op.isPositional = true ∨ op = .score ∧ 1 < args.length → weights = [])
      (args_plain : ∀ q ∈ args, Plain q) : Plain (apply op args weights)

theorem leaves_subset_leavesAll {q : Query α} {qs : List (Query α)} (member : q ∈ qs) :
    q.leaves ⊆ leavesAll qs := by
  obtain ⟨before, after, rfl⟩ := List.append_of_mem member
  rw [leavesAll_append, leavesAll]
  exact fun leaf hleaf => List.mem_append_right _ (List.mem_append_left _ hleaf)

/-- Whether a query is plain can be seen from its leaves and its parts. -/
theorem Plain.of_parts {q : Query α} (bare : ∀ leaf ∈ q.leaves, Bare leaf.1 ∧ Bare leaf.2)
    (unweighted : ∀ op args weights, Query.apply op args weights ∈ q.nodes →
      op.isPositional = true ∨ op = .score ∧ 1 < args.length → weights = []) : Plain q := by
  induction q using induct with
  | term stem field =>
    obtain ⟨stem_bare, field_bare⟩ := bare (stem, field) (List.mem_singleton_self _)
    exact .term stem_bare field_bare
  | apply op args weights ih =>
    refine .apply (unweighted op args weights (mem_nodes_self _)) fun q hq => ?_
    refine ih q hq (fun leaf hleaf => bare leaf (leaves_subset_leavesAll hq hleaf)) ?_
    intro op args weights part
    exact unweighted op args weights (List.mem_cons_of_mem _ (nodes_subset_nodesAll hq part))

namespace Plain

variable {op : Operator} {args : List (Query α)} {weights : List α} {q : Query α}

theorem of_apply (plain : Plain (Query.apply op args weights)) :
    (op.isPositional = true ∨ op = .score ∧ 1 < args.length → weights = []) ∧
      ∀ q ∈ args, Plain q := by
  cases plain with
  | apply unweighted args_plain => exact ⟨unweighted, args_plain⟩

/-- A plain query that only merges is legible. -/
theorem legible (plain : Plain q) (merging : q.Merging) : q.Legible := by
  induction merging with
  | term =>
    cases plain with
    | term stem_bare field_bare => exact .term stem_bare field_bare
  | @apply op args weights positional _ ih =>
    obtain ⟨unweighted, args_plain⟩ := plain.of_apply
    refine .apply ?_ (fun _ => unweighted (.inl positional)) fun _ q hq => ih q hq (args_plain q hq)
    rintro rfl
    simp [Operator.isPositional] at positional

end Plain

end Plain

/-! ### Repeats -/

variable {α : Type} [Scalar α] [Numeral α] {index : Index} {model : RetrievalModel α}
  {q r p : Query α}

omit [Scalar α] in
/-- What can be evaluated only merges. -/
theorem merging_of_positional {list : InvertedList} (evaluated : p.positional index = .ok list) :
    p.Merging := by
  have field : p.positionalField = .ok list.field := by
    rw [← map_field_positional index, evaluated]
    rfl
  exact merging_of_positionalField p field

/-- What a query that can be built scores by itself can be evaluated. -/
theorem positional_of_scoringTree (found : q.scoredPart? = some p) {tree : ScoringTree α}
    (built : q.scoringTree index model = .ok tree) :
    ∃ list, p.positional index = .ok list ∧ tree = .leaf (Cursor.start list) 1 := by
  rw [scoringTree, build_of_scoredPart? found] at built
  split at built
  · obtain ⟨list, evaluated, rfl⟩ := Except.map_eq_ok_iff.1 built
    exact ⟨list, evaluated, rfl⟩
  · simp at built

/-- A scored query that can be built scores a list. -/
theorem exists_scoredPart? (repeated : q.repeatKey?.isSome) {tree : ScoringTree α}
    (built : q.scoringTree index model = .ok tree) :
    ∃ p rest weights list, q = apply .score (p :: rest) weights ∧ p.positional index = .ok list ∧
      tree = .leaf (Cursor.start list) 1 := by
  obtain ⟨args, weights, rfl⟩ := exists_score_of_repeatKey? repeated
  cases args with
  | nil =>
    rw [scoringTree, ← buildFolding_foldsRepeats] at built
    exact absurd built buildFolding_score_nil
  | cons p rest =>
    obtain ⟨list, evaluated, same⟩ := positional_of_scoringTree rfl built
    exact ⟨p, rest, weights, list, rfl, evaluated, same⟩

omit [Scalar α] in
/-- The weights of a `score` around a single argument are not written. -/
theorem text_score {args : List (Query α)} {weights : List α}
    (unweighted : 1 < args.length → weights = []) :
    (apply .score args weights).text = (apply .score args []).text := by
  match args with
  | [] => simp [text, texts, weighted]
  | [_] => rw [text, text]
  | _ :: _ :: _ => rw [unweighted (by simp)]

/-- Repeats of an argument score the same positional query. -/
theorem Plain.scoredPart?_eq_of_repeatKey? (plain : Plain q) (other_plain : Plain r)
    {tree other_tree : ScoringTree α} (built : q.scoringTree index model = .ok tree)
    (other_built : r.scoringTree index model = .ok other_tree) (repeated : r.repeatKey?.isSome)
    (same : q.repeatKey? = r.repeatKey?) :
    ∃ p, q.scoredPart? = some p ∧ r.scoredPart? = some p := by
  obtain ⟨p, rest, weights, list, rfl, evaluated, -⟩ := exists_scoredPart? (same ▸ repeated) built
  obtain ⟨p', rest', weights', list', rfl, other_evaluated, -⟩ :=
    exists_scoredPart? repeated other_built
  obtain ⟨unweighted, args_plain⟩ := plain.of_apply
  obtain ⟨other_unweighted, others_plain⟩ := other_plain.of_apply
  have merging := merging_of_positional evaluated
  have legible := (args_plain p List.mem_cons_self).legible merging
  have other_legible :=
    (others_plain p' List.mem_cons_self).legible (merging_of_positional other_evaluated)
  -- no weights are written, so the text begins with what is scored
  have texts := Option.some.inj same
  rw [text_score fun long => unweighted (.inr ⟨rfl, long⟩),
    text_score fun long => other_unweighted (.inr ⟨rfl, long⟩)] at texts
  obtain rfl := legible.eq_of_score_text other_legible merging texts
  exact ⟨p, rfl, rfl⟩

/-! ### What queries say of documents -/

/-- What the scoring tree of a query says of a document. -/
def standing (index : Index) (model : RetrievalModel α) (doc : DocId) (q : Query α) : Standing α :=
  match q.scoringTree index model with
  | .ok t => t.standing index model doc
  | .error _ => ⟨false, Scalar.ofNat 0, Scalar.ofNat 0⟩

theorem standing_of_scoringTree {tree : ScoringTree α}
    (built : q.scoringTree index model = .ok tree) (doc : DocId) :
    q.standing index model doc = tree.standing index model doc := by
  rw [standing, built]

/-- Queries with one scoring tree say the same of every document. -/
theorem standing_eq_of_scoringTree {tree : ScoringTree α}
    (built : q.scoringTree index model = .ok tree)
    (other_built : r.scoringTree index model = .ok tree) (doc : DocId) :
    q.standing index model doc = r.standing index model doc := by
  rw [standing_of_scoringTree built, standing_of_scoringTree other_built]

/-- Queries that score the same positional query say the same of every document. -/
theorem standing_eq_of_scoredPart? (found : q.scoredPart? = some p)
    (other_found : r.scoredPart? = some p) (doc : DocId) :
    q.standing index model doc = r.standing index model doc := by
  rw [standing, standing, scoringTree, scoringTree, build_of_scoredPart? found,
    build_of_scoredPart? other_found]

/-- Plain queries that repeat each other say the same of every document. -/
theorem Plain.standing_eq_of_repeatKey? (plain : Plain q) (other_plain : Plain r)
    {tree other_tree : ScoringTree α} (built : q.scoringTree index model = .ok tree)
    (other_built : r.scoringTree index model = .ok other_tree) (repeated : r.repeatKey?.isSome)
    (same : q.repeatKey? = r.repeatKey?) (doc : DocId) :
    q.standing index model doc = r.standing index model doc := by
  obtain ⟨p, found, other_found⟩ :=
    plain.scoredPart?_eq_of_repeatKey? other_plain built other_built repeated same
  exact standing_eq_of_scoredPart? found other_found doc

end Query

end RankedRetrieval
