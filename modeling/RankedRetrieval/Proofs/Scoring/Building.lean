import RankedRetrieval.Proofs.Positional.Evaluation
import RankedRetrieval.Proofs.Scoring.NextMatch
import RankedRetrieval.Proofs.Scoring.Support

/-!
# Building of scoring trees

A scoring tree that has been built from a query is at its beginning, and every document has a
score.

## Main Definitions

* `ScoringTree.Initial` — a tree at its beginning
* `ScoringTree.Built` — what is known of a scoring tree that has been built
* `Query.GivenByBuilding` — a property that leaves have and combinations keep

## Main Results

* `Query.holds_of_build` — what building gives holds of every tree that has been built
* `Query.built_of_scoringTree` — the scoring tree of a query is a built one
* `Query.supported_of_scoringTree` — all of its operators are supported
* `ScoringTree.Built.scoreAt_ok` — a built tree has a score for every document

## Design Notes

An index is only asked for ordered postings; every index over documents has them.  That the
operators are supported does not need even that.
-/

namespace RankedRetrieval

variable {α : Type}

/-! ### Arguments -/

namespace Argument

variable {β : Type}

/-- What an argument is and how its repeats are recognised. -/
def entry (f : Argument α β) : Option String × β := (f.key?, f.item)

variable [Scalar α] {f : Argument α β}

theorem entry_mem_ofWeights {items : List (Option String × β)} {weights : List α}
    (member : f ∈ ofWeights items weights) : f.entry ∈ items := by
  induction items generalizing weights with
  | nil => simp [ofWeights] at member
  | cons head items ih =>
    obtain ⟨key?, item⟩ := head
    cases weights with
    | nil | cons w weights =>
      rw [ofWeights] at member
      rcases List.mem_cons.1 member with rfl | later
      · exact List.mem_cons_self
      · exact List.mem_cons_of_mem _ (ih later)

theorem entry_mem_foldInto {repeated : Argument α β} {args : List (Argument α β)}
    (member : f ∈ foldInto repeated args) : f.entry ∈ (repeated :: args).map entry := by
  induction args with
  | nil => simpa [foldInto] using congrArg entry (List.mem_singleton.1 member)
  | cons first rest ih =>
    rw [foldInto] at member
    split at member
    · rcases List.mem_cons.1 member with rfl | later
      · simp [entry]
      · exact List.mem_map_of_mem
          (List.mem_cons_of_mem repeated (List.mem_cons_of_mem first later))
    · rcases List.mem_cons.1 member with rfl | later
      · simp
      · rcases List.mem_cons.1 (ih later) with same | later
        · rw [same]
          exact List.mem_cons_self
        · exact List.mem_cons_of_mem _ (List.mem_cons_of_mem _ later)

theorem entry_mem_foldl_foldInto {args folded : List (Argument α β)}
    (member : f ∈ args.foldl (fun folded f => foldInto f folded) folded) :
    f.entry ∈ (folded ++ args).map entry := by
  induction args generalizing folded with
  | nil => simpa using List.mem_map_of_mem (f := entry) member
  | cons first rest ih =>
    have later := ih member
    rw [List.map_append, List.mem_append] at later ⊢
    rcases later with into | rest
    · obtain ⟨g, hg, same⟩ := List.mem_map.1 into
      have origin := entry_mem_foldInto hg
      rw [same, List.map_cons, List.mem_cons] at origin
      rcases origin with eq | earlier
      · exact .inr (by rw [eq]; exact List.mem_cons_self)
      · exact .inl earlier
    · exact .inr (List.mem_cons_of_mem _ rest)

/-- An operator scores nothing but its arguments. -/
theorem entry_mem_forOperator {op : Operator} {items : List (Option String × β)}
    {weights : List α} (member : f ∈ forOperator op items weights) : f.entry ∈ items := by
  unfold forOperator at member
  split at member
  · obtain ⟨g, hg, same⟩ := List.mem_map.1 (entry_mem_foldl_foldInto member)
    rw [← same]
    exact entry_mem_ofWeights hg
  · exact entry_mem_ofWeights member

theorem item_mem_forOperator {op : Operator} {items : List (Option String × β)}
    {weights : List α} (member : f ∈ forOperator op items weights) :
    f.item ∈ items.map Prod.snd :=
  List.mem_map.2 ⟨f.entry, entry_mem_forOperator member, rfl⟩

end Argument

/-! ### Built trees -/

namespace ScoringTree

/-- A tree at its beginning: all cursors at the beginnings of ordered lists, and no combination at
a document. -/
inductive Initial : ScoringTree α → Prop where
  /-- A leaf at the beginning of its list. -/
  | leaf {list : InvertedList} {qtf : Nat} (ordered : Ordered list.postings) :
      Initial (leaf (Cursor.start list) qtf)
  /-- A combination of arguments at their beginnings. -/
  | combine {op : Operator} {args : List (ScoringTree α)} {weights : List α}
      (args_initial : ∀ t ∈ args, Initial t) : Initial (combine op args weights none)

/-- A tree that has been built: all cursors at the beginnings of ordered lists, all operators
scored by the model, and no combination at a document. -/
inductive Built (model : RetrievalModel α) : ScoringTree α → Prop where
  /-- A leaf at the beginning of its list. -/
  | leaf {list : InvertedList} {qtf : Nat} (supported : model.supports .score = true)
      (ordered : Ordered list.postings) : Built model (leaf (Cursor.start list) qtf)
  /-- A combination of built arguments. -/
  | combine {op : Operator} {args : List (ScoringTree α)} {weights : List α}
      (supported : model.supports op = true) (structural : op ≠ .score)
      (args_built : ∀ t ∈ args, Built model t) : Built model (combine op args weights none)

end ScoringTree

namespace Query

/-- A property of scoring trees that building gives them: leaves over evaluated lists have it,
and supported combinations keep it. -/
structure GivenByBuilding [Numeral α] (index : Index) (model : RetrievalModel α)
    (holds : ScoringTree α → Prop) : Prop where
  /-- Leaves at the beginning of an evaluated list have it. -/
  leaf : ∀ (q : Query α) (list : InvertedList) (qtf : Nat), model.supports .score = true →
    q.positional index = .ok list → holds (.leaf (Cursor.start list) qtf)
  /-- Combinations of trees that have it have it. -/
  combine : ∀ (op : Operator) (args : List (ScoringTree α)) (weights : List α),
    model.supports op = true → op ≠ .score → (∀ t ∈ args, holds t) →
    holds (.combine op args weights none)

section Given

variable {index : Index} {model : RetrievalModel α} {holds : ScoringTree α → Prop}

theorem holds_of_buildAll
    {args : List (Argument α (Nat → Except QueryError (ScoringTree α)))}
    {trees : List (ScoringTree α)} (built : buildAll args = .ok trees)
    (items : ∀ f ∈ args, ∀ n tree, f.item n = .ok tree → holds tree) :
    ∀ t ∈ trees, holds t := by
  induction args generalizing trees with
  | nil =>
    obtain rfl := Except.ok.inj built
    simp
  | cons f args ih =>
    rw [buildAll] at built
    split at built
    · simp at built
    · rename_i tree head
      obtain ⟨rest, tail, rfl⟩ := Except.map_eq_ok_iff.1 built
      exact List.forall_mem_cons.2 ⟨items f List.mem_cons_self _ tree head,
        ih tail fun g hg => items g (List.mem_cons_of_mem f hg)⟩

variable [Numeral α]

theorem holds_of_scoringLeaf (given : GivenByBuilding index model holds) {q : Query α}
    {qtf : Nat} {tree : ScoringTree α} (supported : model.supports .score = true)
    (built : q.scoringLeaf index qtf = .ok tree) : holds tree := by
  unfold scoringLeaf at built
  obtain ⟨list, evaluated, rfl⟩ := Except.map_eq_ok_iff.1 built
  exact given.leaf q list qtf supported evaluated

variable [Scalar α]

mutual
theorem holds_of_build (given : GivenByBuilding index model holds) :
    (q : Query α) → (qtf : Nat) → {tree : ScoringTree α} →
      q.build index model qtf = .ok tree → holds tree
  | term stem field, qtf, tree, built => by
    rw [build.eq_def] at built
    dsimp only at built
    split at built
    · rename_i supported
      exact holds_of_scoringLeaf given supported built
    · simp at built
  | apply op args weights, qtf, tree, built => by
    rw [build.eq_def] at built
    dsimp only at built
    split at built
    · split at built
      · rename_i supported
        exact holds_of_scoringLeaf given supported built
      · simp at built
    split at built
    · simp at built
    rename_i not_unsupported
    have supported : model.supports op = true := by simpa using not_unsupported
    split at built
    · rename_i is_score
      cases args with
      | nil => simp at built
      | cons inner rest => exact holds_of_scoringLeaf given (is_score ▸ supported) built
    · rename_i structural
      obtain ⟨args', trees, rfl⟩ := Except.map_eq_ok_iff.1 built
      refine given.combine op args' _ supported structural (holds_of_buildAll trees ?_)
      intro f hf
      -- folding leaves no other arguments than those of the query
      obtain ⟨entry, hentry, same⟩ := List.mem_map.1 (Argument.item_mem_forOperator hf)
      rw [← same]
      exact holds_of_builders given args entry hentry

theorem holds_of_builders (given : GivenByBuilding index model holds) :
    (qs : List (Query α)) → ∀ entry ∈ builders index model qs,
      ∀ n tree, entry.2 n = .ok tree → holds tree
  | [] => by simp [builders]
  | q :: qs => List.forall_mem_cons.2
      ⟨fun n _ built => holds_of_build given q n built, holds_of_builders given qs⟩
end

end Given

variable [Scalar α] [Numeral α] {index : Index} {model : RetrievalModel α} {q : Query α}
  {tree : ScoringTree α}

omit [Scalar α] in
/-- Building makes built trees. -/
theorem givenByBuilding_built (ordered : ∀ stem field, Ordered (index.postings stem field)) :
    GivenByBuilding index model (ScoringTree.Built model) where
  leaf q _ _ supported evaluated := .leaf supported (positional_ordered ordered q evaluated)
  combine _ _ _ supported structural args_built := .combine supported structural args_built

omit [Scalar α] in
/-- Building makes supported trees, whatever the index holds. -/
theorem givenByBuilding_supported :
    GivenByBuilding index model (ScoringTree.Supported model) where
  leaf _ _ _ supported _ := .leaf supported
  combine _ _ _ supported structural args_supported := .combine supported structural args_supported

/-- The scoring tree of a query is a built one. -/
theorem built_of_scoringTree (ordered : ∀ stem field, Ordered (index.postings stem field))
    (built : q.scoringTree index model = .ok tree) : tree.Built model :=
  holds_of_build (givenByBuilding_built ordered) q 1 built

/-- The scoring tree of a query is supported by its model. -/
theorem supported_of_scoringTree (built : q.scoringTree index model = .ok tree) :
    tree.Supported model :=
  holds_of_build givenByBuilding_supported q 1 built

end Query

/-! ### What built trees have -/

namespace ScoringTree

variable {model : RetrievalModel α}

theorem Built.initial {t : ScoringTree α} (built : t.Built model) : t.Initial := by
  induction built with
  | leaf _ ordered => exact .leaf ordered
  | combine _ _ _ ih => exact .combine ih

/-- A tree at its beginning has skipped nothing. -/
theorem Initial.positioned {t : ScoringTree α} (initial : t.Initial) : Positioned model 0 t := by
  induction initial with
  | leaf ordered => exact .leaf (Cursor.At.start ordered)
  | @combine op args weights _ ih =>
    cases asks : asksForAll model op with
    | false => exact .any asks ih
    | true => exact .all asks ih (fun doc _ _ => Nat.zero_le doc) (Nat.le_refl 0)

theorem Built.positioned {t : ScoringTree α} (built : t.Built model) : Positioned model 0 t :=
  built.initial.positioned

theorem Built.supported {t : ScoringTree α} (built : t.Built model) : t.Supported model := by
  induction built with
  | leaf supported _ => exact .leaf supported
  | combine supported structural _ ih => exact .combine supported structural ih

/-- A built tree has a score for every document. -/
theorem Built.scoreAt_ok [Scalar α] {t : ScoringTree α} (built : t.Built model) (index : Index)
    (doc : DocId) : ∃ s, scoreAt index model doc t = .ok s :=
  built.supported.scoreAt_ok index doc

end ScoringTree

end RankedRetrieval
