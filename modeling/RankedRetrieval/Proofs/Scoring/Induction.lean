import RankedRetrieval.Proofs.Positional.Selection
import RankedRetrieval.Proofs.Scoring.Repeats

/-!
# Induction on queries and their scoring trees

A query has arguments of arguments, so induction on it is stated here once, and from it induction
on a query together with the scoring tree that is built of it.

## Main Results

* `Query.induct` — induction on queries
* `Query.of_buildFolding`, `Query.of_build` — induction on queries and their scoring trees

## Design Notes

A combination has been built of the arguments that are left by folding, each for the number of
arguments that it stands for, so a property of trees may speak of that number too.
-/

namespace RankedRetrieval.Query

variable {α : Type}

mutual
/-- What terms have and operators take over from their arguments, every query has. -/
@[elab_as_elim]
theorem induct {motive : Query α → Prop} (term : ∀ stem field, motive (term stem field))
    (apply : ∀ op args weights, (∀ q ∈ args, motive q) → motive (apply op args weights)) :
    (q : Query α) → motive q
  | .term stem field => term stem field
  | .apply op args weights => apply op args weights (inductAll term apply args)

theorem inductAll {motive : Query α → Prop} (term : ∀ stem field, motive (Query.term stem field))
    (apply : ∀ op args weights, (∀ q ∈ args, motive q) → motive (Query.apply op args weights)) :
    (qs : List (Query α)) → ∀ q ∈ qs, motive q
  | [] => by simp
  | q :: qs => List.forall_mem_cons.2 ⟨induct term apply q, inductAll term apply qs⟩
end

variable [Scalar α] [Numeral α] {index : Index} {model : RetrievalModel α}

/-- What leaves give a query and combinations take over from the arguments that are left by
folding, a query and its tree have, whatever operators fold repeats. -/
theorem of_buildFolding {folds : Operator → Bool} {R : Query α → Nat → ScoringTree α → Prop}
    (leaf : ∀ q p qtf list, q.scoredPart? = some p → model.supports .score = true →
      p.positional index = .ok list → R q qtf (.leaf (Cursor.start list) qtf))
    (combine : ∀ op args weights qtf trees, op.isPositional = false → op ≠ .score →
      model.supports op = true →
      List.Forall₂ (fun f t => f.item ∈ args ∧ R f.item f.count t)
        (argsFoldedUnder folds op args weights) trees →
      R (Query.apply op args weights) qtf
        (.combine op trees ((argsFoldedUnder folds op args weights).map Argument.weight) none))
    (q : Query α) :
    ∀ {qtf tree}, q.buildFolding folds index model qtf = .ok tree → R q qtf tree := by
  have of_leaf {q p : Query α} {qtf : Nat} {tree : ScoringTree α} (found : q.scoredPart? = some p)
      (built : q.buildFolding folds index model qtf = .ok tree) : R q qtf tree := by
    rw [buildFolding_of_scoredPart? found] at built
    split at built
    · rename_i supported
      obtain ⟨list, evaluated, rfl⟩ := Except.map_eq_ok_iff.1 built
      exact leaf q p qtf list found supported evaluated
    · simp at built
  induction q using induct with
  | term stem field => exact of_leaf rfl
  | apply op args weights ih =>
    intro qtf tree built
    rcases scored_or_structural (Query.apply op args weights) with
      ⟨p, found⟩ | ⟨others, same⟩ | ⟨_, _, _, same, structural, not_score⟩
    · exact of_leaf found built
    · rw [same] at built
      exact absurd built buildFolding_score_nil
    · obtain ⟨rfl, rfl, rfl⟩ := Query.apply.inj same
      obtain ⟨supported, trees, args_built, rfl⟩ :=
        (buildFolding_structural_iff structural not_score).1 built
      refine combine op args weights qtf trees structural not_score supported ?_
      -- the induction hypothesis is about arguments, the trees are built of those that are left
      have listed := (List.forall₂_and_left _ trees).2 ⟨fun f hf => hf, args_built⟩
      refine listed.imp fun f t both => ?_
      obtain ⟨arg, -⟩ := mem_of_argFoldedUnder folds both.1
      exact ⟨arg, ih f.item arg both.2⟩

/-- A relation that leaves have, and that combinations take over from their arguments, holds between
a query and the tree that is built of it. -/
theorem of_build {R : Query α → Nat → ScoringTree α → Prop}
    (leaf : ∀ q p qtf list, q.scoredPart? = some p → model.supports .score = true →
      p.positional index = .ok list → R q qtf (.leaf (Cursor.start list) qtf))
    (combine : ∀ op args weights qtf trees, op.isPositional = false → op ≠ .score →
      model.supports op = true →
      List.Forall₂ (fun f t => f.item ∈ args ∧ R f.item f.count t) (scoredArgs op args weights)
        trees →
      R (Query.apply op args weights) qtf
        (.combine op trees ((scoredArgs op args weights).map Argument.weight) none))
    (q : Query α) {qtf : Nat} {tree : ScoringTree α} (built : q.build index model qtf = .ok tree) :
    R q qtf tree :=
  of_buildFolding leaf combine q ((congrFun (buildFolding_foldsRepeats q) qtf).trans built)

/-- What building gives, trees have whatever operators fold repeats. -/
theorem holds_of_buildFolding {folds : Operator → Bool} {holds : ScoringTree α → Prop}
    (given : GivenByBuilding index model holds) {q : Query α} {qtf : Nat} {tree : ScoringTree α}
    (built : q.buildFolding folds index model qtf = .ok tree) : holds tree := by
  refine of_buildFolding (R := fun _ _ t => holds t) ?leaf ?combine q built
  case leaf =>
    intro q p qtf list _ supported evaluated
    exact given.leaf p list qtf supported evaluated
  case combine =>
    intro op args weights qtf trees _ not_score supported args_hold
    refine given.combine op trees _ supported not_score fun t ht => ?_
    obtain ⟨_, _, _, t_holds⟩ := exists_of_forall₂ args_hold.flip ht
    exact t_holds

end RankedRetrieval.Query
