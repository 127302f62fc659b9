import RankedRetrieval.Proofs.Scoring.Faults
import RankedRetrieval.Ranking.Execution

/-!
# Folding under some operators

Building and executing with the operators that fold repeats as a parameter.  With those that do so
it is building and executing a query; with none of them every argument is scored on its own.

## Main Definitions

* `Operator.neverFolds` — the choice of no operators
* `Argument.foldedUnder` — the arguments that are left when some operators fold repeats
* `Query.buildFolding`, `Query.executeFolding` — building and executing when some operators do so
* `Query.scoredPart?` — the positional query that a query scores by itself

## Main Results

* `Query.buildFolding_foldsRepeats` — the operators that fold repeats are an instance
* `Query.buildFolding_of_scoredPart?` — what is scored by itself is evaluated, whatever is folded
* `Query.buildFolding_structural_iff` — when a structural operator has a scoring tree
-/

namespace RankedRetrieval

/-- No operator folds repeats. -/
def Operator.neverFolds (_ : Operator) : Bool := false

variable {α : Type} [Scalar α]

/-! ### Arguments -/

namespace Argument

variable {β γ : Type} (folds : Operator → Bool) (op : Operator) (items : List (Option String × β))
  (weights : List α)

/-- The arguments that an operator scores if repeats are folded under some operators only. -/
def foldedUnder : List (Argument α β) :=
  if folds op then foldRepeats (ofWeights items weights) else ofWeights items weights

theorem foldedUnder_foldsRepeats :
    foldedUnder Operator.foldsRepeats op items weights = forOperator op items weights := rfl

theorem foldedUnder_map (g : β → γ) :
    foldedUnder folds op (items.map fun entry => (entry.1, g entry.2)) weights =
      (foldedUnder folds op items weights).map (map g) := by
  rw [foldedUnder, foldedUnder, ofWeights_map]
  split
  · exact foldl_foldInto_map g (ofWeights items weights) []
  · rfl

/-- Whatever is folded, nothing but the arguments is scored. -/
theorem entry_mem_foldedUnder {folds : Operator → Bool} {op : Operator}
    {items : List (Option String × β)} {weights : List α} {f : Argument α β}
    (member : f ∈ foldedUnder folds op items weights) : f.entry ∈ items := by
  unfold foldedUnder at member
  split at member
  · obtain ⟨g, hg, same⟩ := List.mem_map.1 (entry_mem_foldl_foldInto member)
    rw [← same]
    exact entry_mem_ofWeights hg
  · exact entry_mem_ofWeights member

end Argument

namespace Query

variable [Numeral α] {folds : Operator → Bool} {index : Index} {model : RetrievalModel α}

/-! ### Building -/

mutual
/-- The scoring tree of a query that stands for a number of identical arguments, with repeats folded
under some operators only. -/
def buildFolding (folds : Operator → Bool) (index : Index) (model : RetrievalModel α) :
    Query α → Nat → Except QueryError (ScoringTree α)
  | term stem field, qtf =>
    if model.supports .score then scoringLeaf index (term stem field) qtf
    else .error (unsupported model .score)
  | apply op args weights, qtf =>
    if op.isPositional then
      if model.supports .score then scoringLeaf index (apply op args weights) qtf
      else .error (unsupported model .score)
    else if !model.supports op then .error (unsupported model op)
    else if op = .score then
      match args with
      | [] => .error (.notPositional (apply op args weights).text)
      | inner :: _ => scoringLeaf index inner qtf
    else
      let folded := Argument.foldedUnder folds op (buildersFolding folds index model args) weights
      (buildAll folded).map fun trees => .combine op trees (folded.map Argument.weight) none

/-- For each of some queries the text of its repeats and its scoring tree by count. -/
def buildersFolding (folds : Operator → Bool) (index : Index) (model : RetrievalModel α) :
    List (Query α) → List (Option String × (Nat → Except QueryError (ScoringTree α)))
  | [] => []
  | q :: qs =>
    (q.repeatKey?, buildFolding folds index model q) :: buildersFolding folds index model qs
end

mutual
/-- Building folds repeats under the operators that fold them. -/
theorem buildFolding_foldsRepeats : (q : Query α) →
    q.buildFolding Operator.foldsRepeats index model = q.build index model
  | term _ _ => rfl
  | apply op args weights => by
    funext qtf
    rw [buildFolding.eq_def, build.eq_def]
    dsimp only
    rewrite [buildersFolding_foldsRepeats args, Argument.foldedUnder_foldsRepeats]
    rfl

theorem buildersFolding_foldsRepeats : (qs : List (Query α)) →
    buildersFolding Operator.foldsRepeats index model qs = builders index model qs
  | [] => rfl
  | q :: qs => by
    rw [buildersFolding, builders, buildFolding_foldsRepeats q, buildersFolding_foldsRepeats qs]
end

/-- The score list of a query, with repeats folded under some operators only. -/
def executeFolding (folds : Operator → Bool) (index : Index) (model : RetrievalModel α)
    (q : Query α) : Except QueryError (ScoreList α) :=
  if q.isChildless then .ok ScoreList.empty
  else
    match q.buildFolding folds index model 1 with
    | .error e => .error e
    | .ok tree => (scoreMatches index model (tree.remaining + 1) tree).map ScoreList.mk

/-! ### Leaves -/

omit [Scalar α] [Numeral α] in
/-- The positional query that a query scores by itself, if it does so: itself, or the first
argument of a `score`. -/
def scoredPart? : Query α → Option (Query α)
  | apply .score (inner :: _) _ => some inner
  | q => if q.isPositional then some q else none

omit [Scalar α] [Numeral α] in
/-- A query scores one by itself, or is a `score` of nothing, or combines its arguments. -/
theorem scored_or_structural (q : Query α) : (∃ p, q.scoredPart? = some p) ∨
    (∃ weights, q = apply .score [] weights) ∨
    ∃ op args weights, q = apply op args weights ∧ op.isPositional = false ∧ op ≠ .score := by
  cases q with
  | term stem field => exact .inl ⟨_, rfl⟩
  | apply op args weights =>
    by_cases is_score : op = .score
    · subst is_score
      cases args with
      | nil => exact .inr (.inl ⟨weights, rfl⟩)
      | cons inner rest => exact .inl ⟨inner, rfl⟩
    · cases positional : op.isPositional with
      | false => exact .inr (.inr ⟨op, args, weights, rfl, positional, is_score⟩)
      | true =>
        refine .inl ⟨apply op args weights, ?_⟩
        cases op <;> first | rfl | simp [Operator.isPositional] at positional

/-- What a query scores by itself is evaluated, whatever is folded. -/
theorem buildFolding_of_scoredPart? {q p : Query α} (found : q.scoredPart? = some p) (qtf : Nat) :
    q.buildFolding folds index model qtf =
      if model.supports .score then scoringLeaf index p qtf
      else .error (unsupported model .score) := by
  unfold scoredPart? at found
  split at found
  · obtain rfl := Option.some.inj found
    rw [buildFolding.eq_def]
    dsimp only
    rw [if_neg (by decide)]
    cases model.supports .score <;> rfl
  · split at found
    · rename_i positional
      obtain rfl := Option.some.inj found
      cases q with
      | term stem field => rw [buildFolding]
      | apply op args weights =>
        rw [isPositional] at positional
        rw [buildFolding.eq_def]
        dsimp only
        rw [if_pos positional]
    · simp at found

/-- A query that only scores a positional query is built as a leaf for it, whatever is folded. -/
theorem build_of_scoredPart? {q p : Query α} (found : q.scoredPart? = some p) (qtf : Nat) :
    q.build index model qtf =
      if model.supports .score then scoringLeaf index p qtf
      else .error (unsupported model .score) := by
  rw [← buildFolding_foldsRepeats, buildFolding_of_scoredPart? found]

/-- A `score` of nothing has no scoring tree. -/
theorem buildFolding_score_nil {weights : List α} {qtf : Nat} {tree : ScoringTree α} :
    (apply .score [] weights).buildFolding folds index model qtf ≠ .ok tree := by
  rw [buildFolding.eq_def]
  dsimp only
  rw [if_neg (by decide)]
  cases model.supports .score <;> simp

/-! ### Combinations -/

/-- The arguments that are left of those of an operator if repeats are folded under some operators
only. -/
def argsFoldedUnder (folds : Operator → Bool) (op : Operator) (args : List (Query α))
    (weights : List α) : List (Argument α (Query α)) :=
  Argument.foldedUnder folds op (args.map fun q => (q.repeatKey?, q)) weights

theorem mem_of_argFoldedUnder (folds : Operator → Bool) {op : Operator} {args : List (Query α)}
    {weights : List α} {f : Argument α (Query α)}
    (member : f ∈ argsFoldedUnder folds op args weights) :
    f.item ∈ args ∧ f.key? = f.item.repeatKey? := by
  obtain ⟨q, hq, same⟩ := List.mem_map.1 (Argument.entry_mem_foldedUnder member)
  obtain ⟨keys, rfl⟩ := Prod.mk.inj same
  exact ⟨hq, keys.symm⟩

theorem buildersFolding_eq_map (args : List (Query α)) :
    buildersFolding folds index model args =
      (args.map fun q => (q.repeatKey?, q)).map fun entry =>
        (entry.1, buildFolding folds index model entry.2) := by
  induction args with
  | nil => rfl
  | cons q args ih => rw [buildersFolding, ih, List.map_cons, List.map_cons]

omit [Scalar α] [Numeral α] in
theorem buildAll_eq_ok_iff {args : List (Argument α (Nat → Except QueryError (ScoringTree α)))}
    {trees : List (ScoringTree α)} :
    buildAll args = .ok trees ↔ List.Forall₂ (fun f t => f.item f.count = .ok t) args trees := by
  induction args generalizing trees with
  | nil =>
    rw [buildAll, Except.ok.injEq, List.forall₂_nil_left_iff, eq_comm]
  | cons f args ih =>
    rw [buildAll, List.forall₂_cons_left_iff]
    cases f.item f.count with
    | error e => simp
    | ok tree =>
      simp only [Except.map_eq_ok_iff, ih, Except.ok.injEq]
      constructor
      · rintro ⟨others, built, rfl⟩
        exact ⟨tree, others, rfl, built, rfl⟩
      · rintro ⟨_, others, rfl, built, rfl⟩
        exact ⟨others, built, rfl⟩

/-- A structural operator has a scoring tree when it is supported and the arguments that are left
have theirs. -/
theorem buildFolding_structural_iff {op : Operator} {args : List (Query α)} {weights : List α}
    {qtf : Nat} {tree : ScoringTree α} (structural : op.isPositional = false)
    (not_score : op ≠ .score) :
    (apply op args weights).buildFolding folds index model qtf = .ok tree ↔
      model.supports op = true ∧ ∃ trees,
        List.Forall₂ (fun f t => f.item.buildFolding folds index model f.count = .ok t)
          (argsFoldedUnder folds op args weights) trees ∧
        tree = .combine op trees ((argsFoldedUnder folds op args weights).map Argument.weight)
          none := by
  have folded : Argument.foldedUnder folds op (buildersFolding folds index model args) weights =
      (argsFoldedUnder folds op args weights).map
        (Argument.map (buildFolding folds index model)) := by
    rw [buildersFolding_eq_map]
    exact Argument.foldedUnder_map folds op _ weights (buildFolding folds index model)
  have same_weights : ((argsFoldedUnder folds op args weights).map
      (Argument.map (buildFolding folds index model))).map Argument.weight =
        (argsFoldedUnder folds op args weights).map Argument.weight := by
    rw [List.map_map]
    rfl
  rw [buildFolding.eq_def]
  dsimp only
  rw [if_neg (by simp [structural]), folded, same_weights]
  cases supported : model.supports op with
  | false => simp
  | true =>
    rw [if_neg (by decide), if_neg not_score, Except.map_eq_ok_iff]
    simp only [buildAll_eq_ok_iff, List.forall₂_map_left_iff, true_and]
    exact exists_congr fun trees => and_congr Iff.rfl eq_comm

end Query

end RankedRetrieval
