import RankedRetrieval.Scoring.Score

/-!
# What a scoring tree means

Which documents a scoring tree matches, and the score of each of them, by plain recursion on the
tree: nothing here asks where a cursor is or what a combination remembers.

## Main Definitions

* `ScoringTree.matchesDoc` — whether a tree matches a document
* `ScoringTree.scoreAt` — the score of a document
* `ScoringTree.rewind` — a tree with all cursors at their beginnings

## Design Notes

Trees that differ only in where they are have the same rewound form.  The meaning of a tree is
that of its rewound form, so it does not change while the tree is evaluated.
-/

namespace RankedRetrieval.ScoringTree

variable {α : Type}

/-! ### Matches -/

mutual
/-- Whether a tree matches a document. -/
def matchesDoc (model : RetrievalModel α) (doc : DocId) : ScoringTree α → Bool
  | leaf cursor _ => cursor.list.postings.any fun p => p.doc = doc
  | combine op args _ _ =>
    if asksForAll model op then !args.isEmpty && allMatch model doc args
    else anyMatches model doc args

/-- Whether each of some trees matches a document. -/
def allMatch (model : RetrievalModel α) (doc : DocId) : List (ScoringTree α) → Bool
  | [] => true
  | t :: ts => t.matchesDoc model doc && allMatch model doc ts

/-- Whether one of some trees matches a document. -/
def anyMatches (model : RetrievalModel α) (doc : DocId) : List (ScoringTree α) → Bool
  | [] => false
  | t :: ts => t.matchesDoc model doc || anyMatches model doc ts
end

theorem matchesDoc_leaf {model : RetrievalModel α} {doc : DocId} {cursor : Cursor} {qtf : Nat} :
    (leaf cursor qtf : ScoringTree α).matchesDoc model doc = true ↔
      ∃ p ∈ cursor.list.postings, p.doc = doc := by
  simp [matchesDoc]

theorem allMatch_iff {model : RetrievalModel α} {doc : DocId} {ts : List (ScoringTree α)} :
    allMatch model doc ts = true ↔ ∀ t ∈ ts, t.matchesDoc model doc = true := by
  induction ts with
  | nil => simp [allMatch]
  | cons t ts ih => simp [allMatch, ih]

theorem anyMatches_iff {model : RetrievalModel α} {doc : DocId} {ts : List (ScoringTree α)} :
    anyMatches model doc ts = true ↔ ∃ t ∈ ts, t.matchesDoc model doc = true := by
  induction ts with
  | nil => simp [anyMatches]
  | cons t ts ih => simp [anyMatches, ih]

section Combinations

variable {model : RetrievalModel α} {doc : DocId} {op : Operator} {args : List (ScoringTree α)}
  {weights : List α} {current : Option DocId}

theorem matchesDoc_combine_any (one_suffices : asksForAll model op = false) :
    (combine op args weights current).matchesDoc model doc = true ↔
      ∃ t ∈ args, t.matchesDoc model doc = true := by
  rw [matchesDoc, one_suffices]
  exact anyMatches_iff

theorem matchesDoc_combine_all (asks : asksForAll model op = true) :
    (combine op args weights current).matchesDoc model doc = true ↔
      args ≠ [] ∧ allMatch model doc args = true := by
  simp only [matchesDoc, asks, if_true, Bool.and_eq_true, Bool.not_eq_true',
    List.isEmpty_eq_false_iff]

end Combinations

/-! ### Scores -/

section Scores

variable [Scalar α]

/-- The score of a document at a leaf: that of its own posting. -/
def leafScoreAt (index : Index) (model : RetrievalModel α) (list : InvertedList) (qtf : Nat)
    (doc : DocId) : Except QueryError α :=
  match list.postings.find? fun p => p.doc = doc with
  | none => .ok (Scalar.ofNat 0)
  | some p => postingScore index model list qtf p

mutual
/-- The score of a document that a tree matches. -/
def scoreAt (index : Index) (model : RetrievalModel α) (doc : DocId) :
    ScoringTree α → Except QueryError α
  | leaf cursor qtf => leafScoreAt index model cursor.list qtf doc
  | combine op args weights _ =>
    match model, op with
    | .unrankedBoolean, .or | .unrankedBoolean, .and | .unrankedBoolean, .wand =>
      .ok (Scalar.ofNat 1)
    | .rankedBoolean, .or =>
      (scoresOfMatching index model doc args).map fun scores =>
        (scores.filterMap id).foldl Scalar.greater (Scalar.ofNat 0)
    | .rankedBoolean, .and | .rankedBoolean, .wand =>
      (scoresOfAll index model doc args).map fun scores =>
        scores.foldl Scalar.lesser Scalar.greatest
    | .bm25 _, .sum =>
      (scoresOfMatching index model doc args).map fun scores =>
        Scalar.total (scores.filterMap id)
    | .bm25 _, .wsum => (scoresOfMatching index model doc args).map (weightedSum weights)
    | .indri _, .and | .indri _, .wand =>
      (scoresWithDefaults index model doc args).map (geometricMean weights)
    | .indri _, .wsum => (scoresWithDefaults index model doc args).map (arithmeticMean weights)
    | _, _ => .error (Query.unsupported model op)

/-- The scores of a document by all of some trees. -/
def scoresOfAll (index : Index) (model : RetrievalModel α) (doc : DocId) :
    List (ScoringTree α) → Except QueryError (List α)
  | [] => .ok []
  | t :: ts =>
    match scoreAt index model doc t with
    | .error e => .error e
    | .ok s => (scoresOfAll index model doc ts).map fun scores => s :: scores

/-- The scores of a document by those of some trees that match it. -/
def scoresOfMatching (index : Index) (model : RetrievalModel α) (doc : DocId) :
    List (ScoringTree α) → Except QueryError (List (Option α))
  | [] => .ok []
  | t :: ts =>
    if t.matchesDoc model doc then
      match scoreAt index model doc t with
      | .error e => .error e
      | .ok s => (scoresOfMatching index model doc ts).map fun scores => some s :: scores
    else (scoresOfMatching index model doc ts).map fun scores => none :: scores

/-- The scores of a document by the trees that match it, and the default scores by the
others. -/
def scoresWithDefaults (index : Index) (model : RetrievalModel α) (doc : DocId) :
    List (ScoringTree α) → Except QueryError (List α)
  | [] => .ok []
  | t :: ts =>
    match
      if t.matchesDoc model doc then scoreAt index model doc t
      else defaultScore index model doc t with
    | .error e => .error e
    | .ok s => (scoresWithDefaults index model doc ts).map fun scores => s :: scores
end

end Scores

/-! ### Rewinding -/

mutual
/-- A tree with all cursors at their beginnings. -/
def rewind : ScoringTree α → ScoringTree α
  | leaf cursor qtf => leaf (Cursor.start cursor.list) qtf
  | combine op args weights _ => combine op (rewindAll args) weights none

/-- Trees with all cursors at their beginnings. -/
def rewindAll : List (ScoringTree α) → List (ScoringTree α)
  | [] => []
  | t :: ts => t.rewind :: rewindAll ts
end

@[simp]
theorem isEmpty_rewindAll (ts : List (ScoringTree α)) :
    (rewindAll ts).isEmpty = ts.isEmpty := by
  cases ts <;> rfl

mutual
@[simp]
theorem matchesDoc_rewind (model : RetrievalModel α) (doc : DocId) :
    (t : ScoringTree α) → t.rewind.matchesDoc model doc = t.matchesDoc model doc
  | leaf _ _ => by simp only [rewind, matchesDoc, Cursor.start]
  | combine op args _ _ => by
    simp only [rewind, matchesDoc, isEmpty_rewindAll, allMatch_rewindAll model doc args,
      anyMatches_rewindAll model doc args]

@[simp]
theorem allMatch_rewindAll (model : RetrievalModel α) (doc : DocId) :
    (ts : List (ScoringTree α)) → allMatch model doc (rewindAll ts) = allMatch model doc ts
  | [] => rfl
  | t :: ts => by
    simp only [rewindAll, allMatch, matchesDoc_rewind model doc t, allMatch_rewindAll model doc ts]

@[simp]
theorem anyMatches_rewindAll (model : RetrievalModel α) (doc : DocId) :
    (ts : List (ScoringTree α)) → anyMatches model doc (rewindAll ts) = anyMatches model doc ts
  | [] => rfl
  | t :: ts => by
    simp only [rewindAll, anyMatches, matchesDoc_rewind model doc t,
      anyMatches_rewindAll model doc ts]
end

mutual
@[simp]
theorem depth_rewind : (t : ScoringTree α) → t.rewind.depth = t.depth
  | leaf _ _ => rfl
  | combine _ args _ _ => by simp only [rewind, depth, depthAll_rewindAll args]

@[simp]
theorem depthAll_rewindAll : (ts : List (ScoringTree α)) → depthAll (rewindAll ts) = depthAll ts
  | [] => rfl
  | t :: ts => by simp only [rewindAll, depthAll, depth_rewind t, depthAll_rewindAll ts]
end

section RewoundScores

variable [Scalar α] (index : Index) (model : RetrievalModel α) (doc : DocId)

mutual
@[simp]
theorem defaultScore_rewind :
    (t : ScoringTree α) → defaultScore index model doc t.rewind = defaultScore index model doc t
  | leaf _ _ => by simp only [rewind, defaultScore, Cursor.start]
  | combine op args weights _ => by
    simp only [rewind, defaultScore, defaultScores_rewindAll args]

@[simp]
theorem defaultScores_rewindAll :
    (ts : List (ScoringTree α)) →
      defaultScores index model doc (rewindAll ts) = defaultScores index model doc ts
  | [] => rfl
  | t :: ts => by
    simp only [rewindAll, defaultScores, defaultScore_rewind t, defaultScores_rewindAll ts]
end

mutual
@[simp]
theorem scoreAt_rewind :
    (t : ScoringTree α) → scoreAt index model doc t.rewind = scoreAt index model doc t
  | leaf _ _ => by simp only [rewind, scoreAt, Cursor.start]
  | combine op args weights _ => by
    simp only [rewind, scoreAt, scoresOfAll_rewindAll args, scoresOfMatching_rewindAll args,
      scoresWithDefaults_rewindAll args]

theorem scoresOfAll_rewindAll :
    (ts : List (ScoringTree α)) →
      scoresOfAll index model doc (rewindAll ts) = scoresOfAll index model doc ts
  | [] => rfl
  | t :: ts => by
    simp only [rewindAll, scoresOfAll, scoreAt_rewind t, scoresOfAll_rewindAll ts]

theorem scoresOfMatching_rewindAll :
    (ts : List (ScoringTree α)) →
      scoresOfMatching index model doc (rewindAll ts) = scoresOfMatching index model doc ts
  | [] => rfl
  | t :: ts => by
    simp only [rewindAll, scoresOfMatching, matchesDoc_rewind, scoreAt_rewind t,
      scoresOfMatching_rewindAll ts]

theorem scoresWithDefaults_rewindAll :
    (ts : List (ScoringTree α)) →
      scoresWithDefaults index model doc (rewindAll ts) = scoresWithDefaults index model doc ts
  | [] => rfl
  | t :: ts => by
    simp only [rewindAll, scoresWithDefaults, matchesDoc_rewind, defaultScore_rewind,
      scoreAt_rewind t, scoresWithDefaults_rewindAll ts]
end

end RewoundScores

/-! ### Moving -/

/-- A later state of a tree: the same tree with no more postings ahead. -/
structure Moved (t later : ScoringTree α) : Prop where
  /-- Only cursors have moved. -/
  rewind_eq : later.rewind = t.rewind
  /-- No cursor has moved back. -/
  remaining_le : later.remaining ≤ t.remaining

/-- A later state of some trees. -/
structure MovedAll (ts later : List (ScoringTree α)) : Prop where
  /-- Only cursors have moved. -/
  rewind_eq : rewindAll later = rewindAll ts
  /-- No cursor has moved back. -/
  remaining_le : remainingAll later ≤ remainingAll ts

namespace Moved

variable {t later last : ScoringTree α}

theorem refl (t : ScoringTree α) : Moved t t := ⟨rfl, Nat.le_refl _⟩

theorem trans (first : Moved t later) (second : Moved later last) : Moved t last where
  rewind_eq := second.rewind_eq.trans first.rewind_eq
  remaining_le := Nat.le_trans second.remaining_le first.remaining_le

theorem matchesDoc_eq (moved : Moved t later) (model : RetrievalModel α) (doc : DocId) :
    later.matchesDoc model doc = t.matchesDoc model doc := by
  rw [← matchesDoc_rewind, moved.rewind_eq, matchesDoc_rewind]

theorem scoreAt_eq [Scalar α] (moved : Moved t later) (index : Index) (model : RetrievalModel α)
    (doc : DocId) : later.scoreAt index model doc = t.scoreAt index model doc := by
  rw [← scoreAt_rewind, moved.rewind_eq, scoreAt_rewind]

end Moved

namespace MovedAll

variable {ts later last : List (ScoringTree α)}

theorem refl (ts : List (ScoringTree α)) : MovedAll ts ts := ⟨rfl, Nat.le_refl _⟩

theorem trans (first : MovedAll ts later) (second : MovedAll later last) : MovedAll ts last where
  rewind_eq := second.rewind_eq.trans first.rewind_eq
  remaining_le := Nat.le_trans second.remaining_le first.remaining_le

theorem cons {t t' : ScoringTree α} (head : Moved t t') (tail : MovedAll ts later) :
    MovedAll (t :: ts) (t' :: later) where
  rewind_eq := by rw [rewindAll, rewindAll, head.rewind_eq, tail.rewind_eq]
  remaining_le := Nat.add_le_add head.remaining_le tail.remaining_le

theorem map (f : ScoringTree α → ScoringTree α) (ts : List (ScoringTree α))
    (moved : ∀ t ∈ ts, Moved t (f t)) : MovedAll ts (ts.map f) := by
  induction ts with
  | nil => exact refl []
  | cons t ts ih =>
    exact cons (moved t List.mem_cons_self) (ih fun u hu => moved u (List.mem_cons_of_mem t hu))

theorem allMatch_eq (moved : MovedAll ts later) (model : RetrievalModel α) (doc : DocId) :
    allMatch model doc later = allMatch model doc ts := by
  rw [← allMatch_rewindAll, moved.rewind_eq, allMatch_rewindAll]

theorem depthAll_eq (moved : MovedAll ts later) : depthAll later = depthAll ts := by
  rw [← depthAll_rewindAll, moved.rewind_eq, depthAll_rewindAll]

/-- Moving the arguments of a combination moves the combination. -/
theorem combine (moved : MovedAll ts later) (op : Operator) (weights : List α)
    (current current' : Option DocId) :
    Moved (ScoringTree.combine op ts weights current)
      (ScoringTree.combine op later weights current') where
  rewind_eq := by rw [rewind, rewind, moved.rewind_eq]
  remaining_le := moved.remaining_le

end MovedAll

end RankedRetrieval.ScoringTree
