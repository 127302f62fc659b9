import RankedRetrieval.Number
import RankedRetrieval.Proofs.Query.Parsed
import RankedRetrieval.Proofs.Scoring.Repeats

/-!
# Faults that folding hides

Arguments with the same text are folded before any of them is built.  Which faults this hides.

## Main Definitions

* `Query.Builds` — a query has a scoring tree

## Main Results

* `Query.builds_folding` — an operator is built as its first arguments of each text are; if no
  positional operator has a scored argument, it is built exactly as all of its arguments are
* `Query.folding_hides` — the fault of a scored argument of a positional operator can be hidden

## Design Notes

Two scored arguments with the same text are the same query, unless a positional operator in one of
them has an argument that is not positional.  Such an argument is a fault.  If both queries have
it, folding them hides nothing; it does so when only one has, and then the argument is a scored
one, because `score` does not show in a text.
-/

namespace RankedRetrieval.Query

variable {α : Type} [Scalar α] [Numeral α]

/-- A query has a scoring tree over an index. -/
def Builds (index : Index) (model : RetrievalModel α) (q : Query α) : Prop :=
  ∃ tree, q.scoringTree index model = .ok tree

/-- Whether a query has a scoring tree is a matter of its faults. -/
theorem builds_iff_fault? {index : Index} {model : RetrievalModel α} {q : Query α} :
    Builds index model q ↔ q.fault? model = none := by
  rw [← failure?_scoringTree index, Except.failure?_eq_none_iff]
  rfl

theorem structural_of_foldsRepeats {op : Operator} (folds : op.foldsRepeats = true) :
    op.isPositional = false ∧ op ≠ .score := by
  cases op <;> first | exact ⟨rfl, by decide⟩ | simp [Operator.foldsRepeats] at folds

/-- An operator of a parsed query that folds repeats is built when those arguments are that are
left by folding, so it is whenever all of its arguments are.  If no positional operator of the query
has a scored argument, then it is built only if all of its arguments are, in whatever order and
with whatever weights they stand. -/
theorem builds_folding {parser model : RetrievalModel α} {source : String} {q : Query α}
    (parsed : parse parser.defaultOperator source = .ok q) {op : Operator} {args : List (Query α)}
    {weights : List α} (node : apply op args weights ∈ q.nodes) (folds : op.foldsRepeats = true)
    (supported : model.supports op = true) (index : Index) :
    (Builds index model (apply op args weights) ↔
        ∀ f ∈ scoredArgs op args weights, Builds index model f.item) ∧
      ((∀ arg ∈ args, Builds index model arg) → Builds index model (apply op args weights)) ∧
      ((∀ part ∈ q.nodes, part.isPositional = true → ∀ arg ∈ part.args, arg.isScored = false) →
        (Builds index model (apply op args weights) ↔ ∀ arg ∈ args, Builds index model arg) ∧
          ∀ args' weights', args.Perm args' →
            (Builds index model (apply op args' weights') ↔
              Builds index model (apply op args weights))) := by
  obtain ⟨structural, not_score⟩ := structural_of_foldsRepeats folds
  have left_iff : Builds index model (apply op args weights) ↔
      ∀ f ∈ scoredArgs op args weights, Builds index model f.item := by
    simp only [builds_iff_fault?]
    rw [fault?_structural_iff_scoredArgs structural not_score]
    exact and_iff_right supported
  have all_suffice (all_build : ∀ arg ∈ args, Builds index model arg) :
      Builds index model (apply op args weights) :=
    left_iff.2 fun f hf => all_build f.item (mem_of_scoredArg hf).1
  refine ⟨left_iff, all_suffice, fun unscored => ?_⟩
  have recognisable : ∀ arg ∈ args, arg.Recognisable :=
    ((parsed_of_parse parsed).of_mem_nodes _ node).recognisable fun part hpart =>
      unscored part (nodes_subset node hpart)
  have all_iff {args' : List (Query α)} (perm : args.Perm args') (weights' : List α) :
      Builds index model (apply op args' weights') ↔ ∀ arg ∈ args', Builds index model arg := by
    simp only [builds_iff_fault?]
    rw [fault?_structural_iff (fun arg harg => recognisable arg (perm.mem_iff.2 harg)) structural
      not_score]
    exact and_iff_right supported
  refine ⟨all_iff (.refl args) weights, fun args' weights' perm => ?_⟩
  rw [all_iff perm weights', all_iff (.refl args) weights]
  exact forall_congr' fun arg => by rw [perm.mem_iff]

/-! ### Faults by example -/

/-- Two arguments with the same fault, which no order of the arguments hides. -/
theorem builds_folding_mismatch :
    let mixed : Query Number := (apply .syn [term "dog" "body", term "cat" "title"] []).scored
    let bird : Query Number := (term "bird" "body").scored
    parse (RetrievalModel.unrankedBoolean : RetrievalModel Number).defaultOperator
        "#and(#syn(dog cat.title) bird #syn(dog cat.title))" =
          .ok (apply .and [mixed, bird, mixed] []) ∧
      ∀ index args weights, [mixed, bird, mixed].Perm args →
        ¬ Builds index .unrankedBoolean (apply .and args weights) := by
  intro mixed bird
  have parsed : parse (RetrievalModel.unrankedBoolean : RetrievalModel Number).defaultOperator
      "#and(#syn(dog cat.title) bird #syn(dog cat.title))" =
        .ok (apply .and [mixed, bird, mixed] []) := by
    decide +kernel
  refine ⟨parsed, fun index args weights perm builds => ?_⟩
  have supported : (RetrievalModel.unrankedBoolean : RetrievalModel Number).supports .and = true :=
    rfl
  obtain ⟨-, -, decided⟩ := builds_folding parsed (mem_nodes_self _) rfl supported index
  obtain ⟨all_iff, reordered⟩ := decided (by decide +kernel)
  have mixed_builds := all_iff.1 ((reordered args weights perm).1 builds) mixed List.mem_cons_self
  have faulty : mixed.fault? .unrankedBoolean ≠ none := by decide +kernel
  exact faulty (builds_iff_fault?.1 mixed_builds)

/-- Cleaning leaves a scored `dog` among the arguments of the second operator.  The fault is hidden
behind the first operator, which is written in the same way, but not in front of it. -/
theorem folding_hides :
    let good : Query Number := (apply .syn [term "dog" "body", term "cat" "body"] []).scored
    let bad : Query Number := (apply .syn [(term "dog" "body").scored, term "cat" "body"] []).scored
    parse (RetrievalModel.indri Indri.default : RetrievalModel Number).defaultOperator
        "#syn(dog cat) #syn(#and(dog) cat)" = .ok (apply .and [good, bad] []) ∧
      ∀ index, Builds index (.indri Indri.default) (apply .and [good, bad] []) ∧
        ¬ Builds index (.indri Indri.default) bad ∧
          ¬ Builds index (.indri Indri.default) (apply .and [bad, good] []) := by
  intro good bad
  refine ⟨by decide +kernel, fun index => ?_⟩
  simp only [builds_iff_fault?]
  decide +kernel

end RankedRetrieval.Query
