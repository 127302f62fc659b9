import RankedRetrieval.Proofs.Positional.Selection
import RankedRetrieval.Proofs.Positional.Usability
import RankedRetrieval.Proofs.Query.Parsed
import RankedRetrieval.Proofs.Ranking.Failure
import RankedRetrieval.Proofs.Scoring.Induction
import RankedRetrieval.Proofs.Scoring.Regrouping

/-!
# What scoring trees grow out of

Every leaf of a scoring tree holds the list of a positional part of the query, and every
combination comes from an operator of the query.

## Main Definitions

* `ScoringTree.GrownFrom` — a tree whose parts come from parts of a query

## Main Results

* `ScoringTree.grownFrom_of_scoringTree` — the scoring tree of a query has grown from it
* `ScoringTree.GrownFrom.of_within` — so have all trees within it

## Design Notes

What is known of evaluated lists and of folded weights is gathered here once, so that the scores
of a tree can be looked into by induction on it, without the query.
-/

namespace RankedRetrieval

variable {α : Type}

namespace Query

theorem scoredPart?_mem_nodes {q p : Query α} (found : q.scoredPart? = some p) : p ∈ q.nodes := by
  unfold scoredPart? at found
  split at found
  · obtain rfl := Option.some.inj found
    exact List.mem_cons_of_mem _ (List.mem_append_left _ (mem_nodes_self _))
  · split at found
    · obtain rfl := Option.some.inj found
      exact mem_nodes_self _
    · simp at found

theorem args_nodes_subset {op : Operator} {args : List (Query α)} {weights : List α} {q : Query α}
    (member : q ∈ args) : q.nodes ⊆ (apply op args weights).nodes :=
  fun _ hpart => List.mem_cons_of_mem _ (nodes_subset_nodesAll member hpart)

end Query

namespace ScoringTree

/-! ### Trees within trees -/

section Within

variable {part : ScoringTree α}

theorem within_leaf_iff {cursor : Cursor} {qtf : Nat} :
    part.Within (leaf cursor qtf) ↔ part = leaf cursor qtf := by
  constructor
  · intro within
    cases within
    rfl
  · rintro rfl
    exact .self _

theorem within_combine_iff {op : Operator} {args : List (ScoringTree α)} {weights : List α}
    {current : Option DocId} : part.Within (combine op args weights current) ↔
      part = combine op args weights current ∨ ∃ t ∈ args, part.Within t := by
  constructor
  · intro within
    cases within with
    | self => exact .inl rfl
    | arg member within => exact .inr ⟨_, member, within⟩
  · rintro (rfl | ⟨t, member, within⟩)
    · exact .self _
    · exact .arg member within

end Within

/-! ### Grown trees -/

/-- A scoring tree that has grown from a query over drafts. -/
inductive GrownFrom [Scalar α] [Numeral α] (drafts : List Draft) (model : RetrievalModel α)
    (q : Query α) : ScoringTree α → Prop where
  /-- A leaf at the beginning of the list of a part of the query. -/
  | leaf {p : Query α} {list : InvertedList} {qtf : Nat} (part : p ∈ q.nodes)
      (usable : p.Usable drafts list) (some_arg : 0 < qtf)
      (supported : model.supports .score = true) :
      GrownFrom drafts model q (leaf (Cursor.start list) qtf)
  /-- A combination of grown trees, with the weights of the arguments that are left of an operator
  of the query. -/
  | combine {op : Operator} {args : List (Query α)} {weights : List α}
      {trees : List (ScoringTree α)} (part : Query.apply op args weights ∈ q.nodes)
      (supported : model.supports op = true) (structural : op ≠ .score)
      (same_length : trees.length = (Query.scoredArgs op args weights).length)
      (trees_grown : ∀ t ∈ trees, GrownFrom drafts model q t) :
      GrownFrom drafts model q
        (combine op trees ((Query.scoredArgs op args weights).map Argument.weight) none)

variable [Scalar α] [Numeral α] {drafts : List Draft} {model : RetrievalModel α} {q : Query α}

/-- The scoring tree of a query over drafts has grown from the query. -/
theorem grownFrom_of_scoringTree {tree : ScoringTree α}
    (built : q.scoringTree (Index.ofDrafts drafts) model = .ok tree) :
    tree.GrownFrom drafts model q := by
  let R (p : Query α) (qtf : Nat) (t : ScoringTree α) : Prop :=
    p.nodes ⊆ q.nodes → 0 < qtf → t.GrownFrom drafts model q
  refine Query.of_build (R := R) ?leaf ?combine q built (List.Subset.refl _) Nat.one_pos
  case leaf =>
    intro r p qtf list found supported evaluated within some_arg
    exact .leaf (within (Query.scoredPart?_mem_nodes found)) (Query.usable_of_positional evaluated)
      some_arg supported
  case combine =>
    intro op args weights qtf trees _ not_score supported args_grown within _
    refine .combine (within (Query.mem_nodes_self _)) supported not_score
      args_grown.length_eq.symm fun t ht => ?_
    obtain ⟨f, hf, arg, grown⟩ := exists_of_forall₂ args_grown.flip ht
    exact grown (List.Subset.trans (Query.args_nodes_subset arg) within)
      (Argument.count_pos_of_mem_forOperator hf)

namespace GrownFrom

variable {t : ScoringTree α}

theorem supported (grown : t.GrownFrom drafts model q) : t.Supported model := by
  induction grown with
  | leaf _ _ _ supported => exact .leaf supported
  | combine _ supported structural _ _ ih => exact .combine supported structural ih

/-- What is within a grown tree has grown from the same query. -/
theorem of_within (grown : t.GrownFrom drafts model q) {part : ScoringTree α}
    (within : part.Within t) : part.GrownFrom drafts model q := by
  induction within with
  | self => exact grown
  | arg member _ ih =>
    cases grown with
    | combine _ _ _ _ trees_grown => exact ih (trees_grown _ member)

end GrownFrom

end ScoringTree

end RankedRetrieval
