import Mathlib.Order.Bounds.Defs
import RankedRetrieval.Proofs.Index.Contents
import RankedRetrieval.Proofs.Scoring.Building
import RankedRetrieval.Proofs.Scoring.Settling

/-!
# Scoring trees under arbitrary calls

A scoring tree may be asked for a match and moved forward in any order.  What it answers depends
only on the tree that was built and on which moves there have been.

## Main Definitions

* `ScoringTree.Call` — what can be asked of a scoring tree
* `ScoringTree.after` — the tree after some calls
* `ScoringTree.Ahead` — the matches that some calls have left ahead
* `ScoringTree.ForwardOnly` — what a tree answers after any calls

## Main Results

* `ScoringTree.Tracking.call` — one call keeps a tree in step with its bound
* `ScoringTree.Initial.tracking_after` — so do any calls
* `Query.scoringTree_forwardOnly` — over any documents, a scoring tree moves forward only

## Design Notes

The calls so far amount to one bound: a document is ahead of all of them exactly when it is not
before the bound.  Looking for a match leaves the bound alone, although it moves cursors, and
every other call raises it.
-/

namespace RankedRetrieval

variable {α : Type} {model : RetrievalModel α}

namespace ScoringTree

/-! ### Calls -/

/-- What can be asked of a scoring tree. -/
inductive Call where
  /-- To look for the next match. -/
  | hasMatch
  /-- To move past a document. -/
  | advancePast (doc : DocId)
  /-- To move to the first documents that are not before a document. -/
  | advanceTo (doc : DocId)

namespace Call

/-- The tree after a call. -/
def apply (model : RetrievalModel α) (t : ScoringTree α) : Call → ScoringTree α
  | hasMatch => t.settle model
  | advancePast doc => t.advancePast doc
  | advanceTo doc => t.advanceTo doc

/-- Whether a call leaves a document ahead. -/
def Leaves (doc : DocId) : Call → Prop
  | hasMatch => True
  | advancePast passed => passed < doc
  | advanceTo target => target ≤ doc

/-- The first document that a call leaves ahead. -/
def bound : Call → DocId
  | hasMatch => 0
  | advancePast doc => doc + 1
  | advanceTo doc => doc

theorem leaves_iff (call : Call) (doc : DocId) : call.Leaves doc ↔ call.bound ≤ doc := by
  cases call with
  | hasMatch => exact ⟨fun _ => Nat.zero_le doc, fun _ => trivial⟩
  | advancePast passed => exact Iff.rfl
  | advanceTo target => exact Iff.rfl

end Call

/-- The tree after some calls. -/
def after (model : RetrievalModel α) (calls : List Call) (t : ScoringTree α) : ScoringTree α :=
  calls.foldl (Call.apply model) t

/-- A match that some calls have left ahead. -/
structure Ahead (model : RetrievalModel α) (calls : List Call) (t : ScoringTree α)
    (doc : DocId) : Prop where
  /-- The tree matches it. -/
  isMatch : t.matchesDoc model doc = true
  /-- Every call leaves it ahead. -/
  left : ∀ call ∈ calls, call.Leaves doc

theorem after_append (calls more : List Call) (t : ScoringTree α) :
    after model (calls ++ more) t = after model more (after model calls t) := by
  rw [after, after, after, List.foldl_append]

/-! ### One call -/

/-- A positioned tree that is at its next match whenever it is at a document. -/
structure Tracking (model : RetrievalModel α) (bound : DocId) (t : ScoringTree α) : Prop where
  /-- The tree has skipped no match from the bound on. -/
  positioned : Positioned model bound t
  /-- The tree is at no other document than its next match. -/
  at_next : ∀ doc, t.current? = some doc → LeastMatch model bound t doc

theorem Settled.tracking {bound : DocId} {t : ScoringTree α} (settled : Settled model bound t) :
    Tracking model bound t where
  positioned := settled.positioned
  at_next doc := (settled.current?_eq_some_iff doc).1

/-- A moved combination is at no document; a leaf is always at its next match. -/
theorem Positioned.tracking_advanceTo {bound : DocId} {t : ScoringTree α}
    (positioned : Positioned model bound t) (target : DocId) :
    Tracking model (max bound target) (t.advanceTo target) where
  positioned := positioned.advanceTo target
  at_next doc at_doc := by
    cases positioned with
    | leaf at_bound => exact (Settled.leaf (at_bound.advanceTo target)).tracking.at_next doc at_doc
    | any | all =>
      rw [advanceTo_combine] at at_doc
      simp [current?] at at_doc

/-- A call raises the bound of a tree to its own. -/
theorem Tracking.call {bound : DocId} {t : ScoringTree α} (tracking : Tracking model bound t)
    (call : Call) : Tracking model (max bound call.bound) (call.apply model t) := by
  cases call with
  | hasMatch =>
    rw [Call.bound, max_eq_left (Nat.zero_le bound)]
    exact (settle_settled tracking.positioned).tracking
  | advancePast doc =>
    rw [Call.apply, advancePast_eq_advanceTo]
    exact tracking.positioned.tracking_advanceTo (doc + 1)
  | advanceTo doc => exact tracking.positioned.tracking_advanceTo doc

theorem moved_call (call : Call) (t : ScoringTree α) : Moved t (call.apply model t) := by
  cases call with
  | hasMatch => exact moved_settle t
  | advancePast doc =>
    rw [Call.apply, advancePast_eq_advanceTo]
    exact moved_advanceTo (doc + 1) t
  | advanceTo doc => exact moved_advanceTo doc t

/-! ### Any calls -/

theorem moved_after (calls : List Call) (t : ScoringTree α) :
    Moved t (after model calls t) := by
  induction calls generalizing t with
  | nil => exact Moved.refl t
  | cons call calls ih => exact (moved_call call t).trans (ih (call.apply model t))

theorem Initial.tracking {t : ScoringTree α} (initial : t.Initial) : Tracking model 0 t where
  positioned := initial.positioned
  at_next doc at_doc := by
    cases initial with
    | leaf ordered =>
      exact (Settled.leaf (Cursor.At.start ordered)).tracking.at_next doc at_doc
    | combine _ => simp [current?] at at_doc

/-- The documents that some calls have left ahead are those from some bound on. -/
theorem Initial.tracking_after {t : ScoringTree α} (initial : t.Initial) (calls : List Call) :
    ∃ bound, (∀ doc, bound ≤ doc ↔ ∀ call ∈ calls, call.Leaves doc) ∧
      Tracking model bound (after model calls t) := by
  -- the last call comes on top of a bound for those before it
  induction calls using List.reverseRecOn with
  | nil => exact ⟨0, by simp, initial.tracking⟩
  | append_singleton calls call ih =>
    obtain ⟨bound, left_iff, tracking⟩ := ih
    refine ⟨max bound call.bound, fun doc => ?_, ?_⟩
    · rw [max_le_iff, left_iff, ← call.leaves_iff]
      simp only [List.mem_append, List.mem_singleton, or_imp, forall_and, forall_eq]
    · rw [after_append]
      exact tracking.call call

theorem Built.tracking_after {t : ScoringTree α} (built : t.Built model) (calls : List Call) :
    ∃ bound, (∀ doc, bound ≤ doc ↔ ∀ call ∈ calls, call.Leaves doc) ∧
      Tracking model bound (after model calls t) :=
  built.initial.tracking_after calls

/-- A least match from the bound of some calls on is the first match that they have left
ahead. -/
theorem leastMatch_iff_isLeast {bound doc : DocId} {calls : List Call} {t : ScoringTree α}
    (left_iff : ∀ doc, bound ≤ doc ↔ ∀ call ∈ calls, call.Leaves doc) :
    LeastMatch model bound (after model calls t) doc ↔
      IsLeast {doc | Ahead model calls t doc} doc := by
  have moved : Moved t (after model calls t) := moved_after calls t
  constructor
  · intro found
    obtain ⟨reached, isMatch, least⟩ := found.of_moved moved
    exact ⟨⟨isMatch, (left_iff doc).1 reached⟩,
      fun other ahead => least other ((left_iff other).2 ahead.left) ahead.isMatch⟩
  · rintro ⟨⟨isMatch, left⟩, least⟩
    refine ⟨(left_iff doc).2 left, ?_, fun other reached matched => ?_⟩
    · rw [moved.matchesDoc_eq, isMatch]
    · rw [moved.matchesDoc_eq] at matched
      exact least ⟨matched, (left_iff other).1 reached⟩

/-- After any calls a tree is at no other document than the first match that they have left
ahead. -/
theorem Built.isLeast_of_current? {t : ScoringTree α} (built : t.Built model)
    {calls : List Call} {doc : DocId} (at_doc : (after model calls t).current? = some doc) :
    IsLeast {doc | Ahead model calls t doc} doc := by
  obtain ⟨bound, left_iff, tracking⟩ := built.tracking_after calls
  exact (leastMatch_iff_isLeast left_iff).1 (tracking.at_next doc at_doc)

/-- Looking for a match finds the first one that the calls so far have left ahead. -/
theorem Built.current?_settle_iff {t : ScoringTree α} (built : t.Built model)
    (calls : List Call) (doc : DocId) :
    ((after model calls t).settle model).current? = some doc ↔
      IsLeast {doc | Ahead model calls t doc} doc := by
  obtain ⟨bound, left_iff, tracking⟩ := built.tracking_after calls
  have settled := settle_settled tracking.positioned
  have moved : Moved (after model calls t) ((after model calls t).settle model) := moved_settle _
  rw [settled.current?_eq_some_iff, ← leastMatch_iff_isLeast left_iff]
  refine ⟨fun found => found.of_moved moved, fun ⟨reached, isMatch, least⟩ => ?_⟩
  simp only [← moved.matchesDoc_eq] at isMatch least
  exact ⟨reached, isMatch, least⟩

/-! ### What a tree answers -/

/-- What a tree answers after any calls. -/
structure ForwardOnly (model : RetrievalModel α) (t : ScoringTree α) : Prop where
  /-- There is a next match exactly when the calls have left a match ahead. -/
  hasMatch_iff : ∀ calls, (after model calls t).hasMatch model = true ↔
    ∃ doc, Ahead model calls t doc
  /-- The tree is then at the first such match. -/
  current?_iff : ∀ calls doc, (after model (calls ++ [.hasMatch]) t).current? = some doc ↔
    IsLeast {doc | Ahead model calls t doc} doc
  /-- How often a move is made, and in which order, makes no difference. -/
  same_of_moves : ∀ calls others, (∀ call ≠ .hasMatch, call ∈ calls ↔ call ∈ others) →
    (after model (calls ++ [.hasMatch]) t).current? =
      (after model (others ++ [.hasMatch]) t).current?
  /-- The tree is never at an earlier document than before. -/
  not_backwards : ∀ calls more doc later, (after model calls t).current? = some doc →
    (after model (calls ++ more) t).current? = some later → doc ≤ later

theorem Ahead.of_append {calls more : List Call} {t : ScoringTree α} {doc : DocId}
    (ahead : Ahead model (calls ++ more) t doc) : Ahead model calls t doc :=
  ⟨ahead.isMatch, fun call member => ahead.left call (List.mem_append_left more member)⟩

/-- Only the moves among some calls decide what they leave ahead. -/
theorem ahead_congr {calls others : List Call} {t : ScoringTree α}
    (same : ∀ call ≠ .hasMatch, call ∈ calls ↔ call ∈ others) :
    Ahead model calls t = Ahead model others t := by
  have transfer {calls others : List Call} {doc : DocId}
      (same : ∀ call ≠ .hasMatch, call ∈ calls ↔ call ∈ others)
      (ahead : Ahead model calls t doc) : Ahead model others t doc := by
    refine ⟨ahead.isMatch, fun call member => ?_⟩
    cases call with
    | hasMatch => exact trivial
    | advancePast | advanceTo => exact ahead.left _ ((same _ (by simp)).2 member)
  funext doc
  exact propext ⟨transfer same, transfer fun call moves => (same call moves).symm⟩

theorem Built.forwardOnly {t : ScoringTree α} (built : t.Built model) : ForwardOnly model t where
  hasMatch_iff calls := by
    rw [hasMatch, Option.isSome_iff_exists]
    simp only [built.current?_settle_iff]
    refine ⟨fun ⟨doc, least⟩ => ⟨doc, least.1⟩, fun ⟨doc, ahead⟩ => ?_⟩
    classical
    exact ⟨_, Nat.find_spec ⟨doc, ahead⟩, fun other ahead => Nat.find_min' _ ahead⟩
  current?_iff calls doc := by
    rw [after_append]
    exact built.current?_settle_iff calls doc
  same_of_moves calls others same := by
    refine Option.ext fun doc => ?_
    rw [after_append, after_append]
    exact (built.current?_settle_iff calls doc).trans
      (ahead_congr same ▸ (built.current?_settle_iff others doc).symm)
  not_backwards calls more doc later at_doc at_later :=
    (built.isLeast_of_current? at_doc).2 (built.isLeast_of_current? at_later).1.of_append

end ScoringTree

namespace Query

open ScoringTree

variable [Scalar α] [Numeral α]

/-- Over any documents, the scoring tree of a query answers after any calls with the first of
its matches that they have left ahead. -/
theorem scoringTree_forwardOnly {docs : List Document} {q : Query α} {tree : ScoringTree α}
    (built : q.scoringTree (Index.ofDocuments docs) model = .ok tree) :
    tree.ForwardOnly model :=
  (built_of_scoringTree (Index.postings_ordered docs) built).forwardOnly

/-- An intersection in a union, moved before and after a match has been looked for. -/
theorem scoringTree_forwardOnly_union :
    let docs := [(Document.named "a").withField "body" "dog cat",
      (Document.named "b").withField "body" "dog", (Document.named "c").withField "body" "bird"]
    let q : Query Number := apply .or
      [apply .and [scored (term "dog" "body"), scored (term "cat" "body")] [],
        scored (term "bird" "body")] []
    ∃ tree, q.scoringTree (Index.ofDocuments docs) .rankedBoolean = .ok tree ∧
      (after .rankedBoolean [.hasMatch, .advancePast 0, .advanceTo 1, .hasMatch] tree).current? =
        some 2 ∧
      tree.ForwardOnly .rankedBoolean := by
  intro docs q
  have found : (q.scoringTree (Index.ofDocuments docs) .rankedBoolean).toOption.map (fun tree =>
      (after .rankedBoolean [.hasMatch, .advancePast 0, .advanceTo 1, .hasMatch] tree).current?) =
        some (some 2) := by
    decide +kernel
  cases built : q.scoringTree (Index.ofDocuments docs) .rankedBoolean with
  | error e => simp [built, Except.toOption] at found
  | ok tree =>
    rw [built] at found
    exact ⟨tree, rfl, Option.some.inj found, scoringTree_forwardOnly built⟩

end Query

end RankedRetrieval
