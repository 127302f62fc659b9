import Mathlib.Data.Nat.Find
import RankedRetrieval.Proofs.Positional.Movement
import RankedRetrieval.Proofs.Scoring.Meaning

/-!
# The next match of a scoring tree

A scoring tree that has been moved to a lower bound and is at a match is at the least of its
matches that are not before the bound, however its combinations are nested.

## Main Definitions

* `ScoringTree.Positioned` — a tree that has skipped nothing from a bound on
* `ScoringTree.Settled` — a positioned tree at its next match
* `ScoringTree.LeastMatch` — the match that a settled tree is at

## Main Results

* `ScoringTree.Positioned.advanceTo` — moving raises the bound
* `ScoringTree.Settled.current?_eq_some_iff` — a settled tree is at its next match
* `ScoringTree.Settled.remaining_advanceTo_lt` — leaving a match moves a cursor

## Design Notes

A combination that asks for all arguments moves them ahead of its own bound while it looks for
an agreement.  Its arguments are therefore at a bound of their own, and what makes this harmless
is that the combination has no match between the two bounds (`none_between`).  When one argument
is exhausted the others are left where they are, so an exhausted combination has positioned
arguments only.
-/

namespace RankedRetrieval.ScoringTree

variable {α : Type} {model : RetrievalModel α}

/-! ### Moving all cursors -/

theorem advanceAll_eq_map (move : Cursor → Cursor) (ts : List (ScoringTree α)) :
    advanceAll move ts = ts.map fun t => t.advance move := by
  induction ts with
  | nil => rfl
  | cons t ts ih => rw [advanceAll, ih, List.map_cons]

theorem advanceTo_combine (op : Operator) (args : List (ScoringTree α)) (weights : List α)
    (current : Option DocId) (doc : DocId) :
    (combine op args weights current).advanceTo doc =
      combine op (args.map fun t => t.advanceTo doc) weights none := by
  rw [advanceTo, advance, advanceAll_eq_map]
  rfl

/-- Moving past a document is moving to the number after it. -/
theorem advancePast_eq_advanceTo (t : ScoringTree α) (doc : DocId) :
    t.advancePast doc = t.advanceTo (doc + 1) := by
  unfold advancePast advanceTo
  congr 1
  funext cursor
  exact Cursor.advancePast_eq_advanceTo cursor doc

theorem remaining_advanceTo_cursor (cursor : Cursor) (doc : DocId) :
    (cursor.advanceTo doc).remaining ≤ cursor.remaining := by
  unfold Cursor.advanceTo Cursor.advanceWhile
  dsimp only
  split
  · rename_i shorter
    exact Nat.le_of_lt shorter
  · exact Nat.le_refl _

mutual
theorem moved_advanceTo (doc : DocId) : (t : ScoringTree α) → Moved t (t.advanceTo doc)
  | leaf cursor qtf =>
    { rewind_eq := by simp only [advanceTo, advance, rewind, Cursor.list_advanceTo]
      remaining_le := remaining_advanceTo_cursor cursor doc }
  | combine op args weights current => by
    rw [advanceTo_combine]
    exact (movedAll_advanceTo doc args).combine op weights current none

theorem movedAll_advanceTo (doc : DocId) :
    (ts : List (ScoringTree α)) → MovedAll ts (ts.map fun t => t.advanceTo doc)
  | [] => MovedAll.refl []
  | t :: ts => MovedAll.cons (moved_advanceTo doc t) (movedAll_advanceTo doc ts)
end

/-- Trees have less ahead when one of them has and none has more. -/
theorem remainingAll_map_lt {ts : List (ScoringTree α)} {f : ScoringTree α → ScoringTree α}
    (moved : ∀ t ∈ ts, Moved t (f t)) {t : ScoringTree α} (member : t ∈ ts)
    (less : (f t).remaining < t.remaining) : remainingAll (ts.map f) < remainingAll ts := by
  induction ts with
  | nil => simp at member
  | cons u us ih =>
    have head := (moved u List.mem_cons_self).remaining_le
    have tail := (MovedAll.map f us fun v hv => moved v (List.mem_cons_of_mem u hv)).remaining_le
    rw [List.map_cons, remainingAll, remainingAll]
    rcases List.mem_cons.1 member with rfl | later
    · exact Nat.add_lt_add_of_lt_of_le less tail
    · exact Nat.add_lt_add_of_le_of_lt head
        (ih (fun v hv => moved v (List.mem_cons_of_mem u hv)) later)

/-! ### Trees at a bound -/

/-- A tree that has been moved to a bound and has skipped no match from there on. -/
inductive Positioned (model : RetrievalModel α) : DocId → ScoringTree α → Prop where
  /-- A leaf is exactly at the bound. -/
  | leaf {bound : DocId} {cursor : Cursor} {qtf : Nat} (at_bound : cursor.At bound) :
      Positioned model bound (leaf cursor qtf)
  /-- A combination that asks for one argument has its arguments at the bound. -/
  | any {bound : DocId} {op : Operator} {args : List (ScoringTree α)} {weights : List α}
      {current : Option DocId} (one_suffices : asksForAll model op = false)
      (args_at : ∀ t ∈ args, Positioned model bound t) :
      Positioned model bound (combine op args weights current)
  /-- A combination that asks for all arguments may have them at a later bound. -/
  | all {bound reached : DocId} {op : Operator} {args : List (ScoringTree α)}
      {weights : List α} {current : Option DocId} (asks : asksForAll model op = true)
      (args_at : ∀ t ∈ args, Positioned model reached t)
      (none_between : ∀ doc, bound ≤ doc → allMatch model doc args = true → reached ≤ doc)
      (later : bound ≤ reached) :
      Positioned model bound (combine op args weights current)

/-- Moving a positioned tree raises its bound. -/
theorem Positioned.advanceTo {bound : DocId} {t : ScoringTree α}
    (positioned : Positioned model bound t) (doc : DocId) :
    Positioned model (max bound doc) (t.advanceTo doc) := by
  induction positioned with
  | leaf at_bound => exact .leaf (at_bound.advanceTo doc)
  | any one_suffices _ ih =>
    rw [advanceTo_combine]
    exact .any one_suffices (List.forall_mem_map.2 ih)
  | all asks _ none_between later ih =>
    rw [advanceTo_combine]
    refine .all asks (List.forall_mem_map.2 ih) (fun other reached matched => ?_)
      (max_le_max later (Nat.le_refl doc))
    rw [(movedAll_advanceTo doc _).allMatch_eq] at matched
    exact max_le (none_between other (Nat.le_trans (le_max_left _ _) reached) matched)
      (Nat.le_trans (le_max_right _ _) reached)

/-- The least match of a tree that is not before a bound. -/
structure LeastMatch (model : RetrievalModel α) (bound : DocId) (t : ScoringTree α)
    (doc : DocId) : Prop where
  /-- It is not before the bound. -/
  reached : bound ≤ doc
  /-- It is a match. -/
  isMatch : t.matchesDoc model doc = true
  /-- Every other such match comes later. -/
  least : ∀ other, bound ≤ other → t.matchesDoc model other = true → doc ≤ other

namespace LeastMatch

variable {bound doc other : DocId} {t : ScoringTree α}

theorem unique (first : LeastMatch model bound t doc) (second : LeastMatch model bound t other) :
    doc = other :=
  Nat.le_antisymm (first.least other second.reached second.isMatch)
    (second.least doc first.reached first.isMatch)

/-- A tree with a match from a bound on has a least one. -/
theorem exists_le (reached : bound ≤ other) (matched : t.matchesDoc model other = true) :
    ∃ doc, doc ≤ other ∧ LeastMatch model bound t doc := by
  have some_match : ∃ doc, bound ≤ doc ∧ t.matchesDoc model doc = true :=
    ⟨other, reached, matched⟩
  classical
  obtain ⟨found, isMatch⟩ := Nat.find_spec some_match
  exact ⟨Nat.find some_match, Nat.find_min' some_match ⟨reached, matched⟩, found, isMatch,
    fun doc hb hm => Nat.find_min' some_match ⟨hb, hm⟩⟩

theorem of_moved {later : ScoringTree α} (moved : Moved t later)
    (found : LeastMatch model bound later doc) : LeastMatch model bound t doc where
  reached := found.reached
  isMatch := by rw [← moved.matchesDoc_eq]; exact found.isMatch
  least other hb hm := found.least other hb (by rw [moved.matchesDoc_eq]; exact hm)

section Combinations

variable {reached : DocId} {op : Operator} {args : List (ScoringTree α)} {weights : List α}
  {current : Option DocId}

/-- The least match of a combination that asks for one argument is the first of the least matches
of its arguments. -/
theorem combine_any_iff (one_suffices : asksForAll model op = false) :
    LeastMatch model bound (combine op args weights current) doc ↔
      (∃ t ∈ args, LeastMatch model bound t doc) ∧
        ∀ t ∈ args, ∀ other, LeastMatch model bound t other → doc ≤ other := by
  constructor
  · intro found
    have before {t : ScoringTree α} (ht : t ∈ args) {other : DocId}
        (least : LeastMatch model bound t other) : doc ≤ other :=
      found.least other least.reached
        ((matchesDoc_combine_any one_suffices).2 ⟨t, ht, least.isMatch⟩)
    refine ⟨?_, fun t ht other least => before ht least⟩
    obtain ⟨t, ht, matched⟩ := (matchesDoc_combine_any one_suffices).1 found.isMatch
    obtain ⟨first, le, least⟩ := exists_le found.reached matched
    obtain rfl : first = doc := Nat.le_antisymm le (before ht least)
    exact ⟨t, ht, least⟩
  · rintro ⟨⟨t, ht, found⟩, before⟩
    refine ⟨found.reached, (matchesDoc_combine_any one_suffices).2 ⟨t, ht, found.isMatch⟩,
      fun other hb hm => ?_⟩
    obtain ⟨u, hu, matched⟩ := (matchesDoc_combine_any one_suffices).1 hm
    obtain ⟨first, le, least⟩ := exists_le hb matched
    exact Nat.le_trans (before u hu first least) le

/-- The least match of a combination that asks for all arguments is the one on which they agree,
also when they have gone ahead of a bound from which the combination has no match. -/
theorem combine_all (asks : asksForAll model op = true) (nonempty : args ≠ [])
    (agreed : ∀ t ∈ args, LeastMatch model reached t doc)
    (none_between : ∀ doc, bound ≤ doc → allMatch model doc args = true → reached ≤ doc)
    (later : bound ≤ reached) :
    LeastMatch model bound (combine op args weights current) doc := by
  obtain ⟨t, ht⟩ := List.exists_mem_of_ne_nil args nonempty
  refine ⟨Nat.le_trans later (agreed t ht).reached, ?_, fun other hb hm => ?_⟩
  · exact (matchesDoc_combine_all asks).2
      ⟨nonempty, allMatch_iff.2 fun u hu => (agreed u hu).isMatch⟩
  · have all_match := ((matchesDoc_combine_all asks).1 hm).2
    exact (agreed t ht).least other (none_between other hb all_match)
      (allMatch_iff.1 all_match t ht)

end Combinations

end LeastMatch

/-! ### Trees at their next match -/

/-- A tree at the least match that is not before a bound, or at none when there is none. -/
inductive Settled (model : RetrievalModel α) : DocId → ScoringTree α → Prop where
  /-- A leaf is always at its next match. -/
  | leaf {bound : DocId} {cursor : Cursor} {qtf : Nat} (at_bound : cursor.At bound) :
      Settled model bound (leaf cursor qtf)
  /-- A combination that asks for one argument is at the least match of its arguments. -/
  | any {bound : DocId} {op : Operator} {args : List (ScoringTree α)} {weights : List α}
      (one_suffices : asksForAll model op = false)
      (args_settled : ∀ t ∈ args, Settled model bound t) :
      Settled model bound (combine op args weights (args.filterMap current?).min?)
  /-- A combination that asks for all arguments is at a match on which they agree. -/
  | agreed {bound reached doc : DocId} {op : Operator} {args : List (ScoringTree α)}
      {weights : List α} (asks : asksForAll model op = true) (nonempty : args ≠ [])
      (args_settled : ∀ t ∈ args, Settled model reached t)
      (at_doc : ∀ t ∈ args, t.current? = some doc)
      (none_between : ∀ doc, bound ≤ doc → allMatch model doc args = true → reached ≤ doc)
      (later : bound ≤ reached) :
      Settled model bound (combine op args weights (some doc))
  /-- A combination that asks for all arguments has no match left. -/
  | exhausted {bound : DocId} {op : Operator} {args : List (ScoringTree α)} {weights : List α}
      (positioned : Positioned model bound (combine op args weights none))
      (nothing : ∀ doc, bound ≤ doc →
        (combine op args weights none).matchesDoc model doc = false) :
      Settled model bound (combine op args weights none)

namespace Settled

variable {bound doc : DocId} {t : ScoringTree α}

theorem positioned (settled : Settled model bound t) : Positioned model bound t := by
  induction settled with
  | leaf at_bound => exact .leaf at_bound
  | any one_suffices _ ih => exact .any one_suffices ih
  | agreed asks _ _ _ none_between later ih => exact .all asks ih none_between later
  | exhausted positioned _ => exact positioned

/-- What a settled tree is at is its next match. -/
theorem current?_eq_some_iff (settled : Settled model bound t) (doc : DocId) :
    t.current? = some doc ↔ LeastMatch model bound t doc := by
  induction settled generalizing doc with
  | leaf at_bound =>
    rw [current?, at_bound.doc?_eq_some_iff]
    constructor
    · rintro ⟨⟨reached, isMatch⟩, least⟩
      refine ⟨reached, matchesDoc_leaf.2 isMatch, fun other hb hm => ?_⟩
      obtain ⟨p, hp, rfl⟩ := matchesDoc_leaf.1 hm
      exact least p hp hb
    · rintro ⟨reached, isMatch, least⟩
      exact ⟨⟨reached, matchesDoc_leaf.1 isMatch⟩,
        fun p hp hb => least p.doc hb (matchesDoc_leaf.2 ⟨p, hp, rfl⟩)⟩
  | @any bound op args weights one_suffices _ ih =>
    have current_iff (other : DocId) : other ∈ args.filterMap current? ↔
        ∃ t ∈ args, LeastMatch model bound t other := by
      rw [List.mem_filterMap]
      exact exists_congr fun t => and_congr_right fun ht => ih t ht other
    rw [current?, List.min?_eq_some_iff, LeastMatch.combine_any_iff one_suffices, current_iff]
    refine and_congr_right fun _ => ⟨fun le t ht other least => ?_, fun le other member => ?_⟩
    · exact le other ((current_iff other).2 ⟨t, ht, least⟩)
    · obtain ⟨t, ht, least⟩ := (current_iff other).1 member
      exact le t ht other least
  | @agreed bound reached at_doc op args weights asks nonempty _ all_at none_between later ih =>
    have found : LeastMatch model bound (combine op args weights (some at_doc)) at_doc :=
      LeastMatch.combine_all asks nonempty
        (fun t ht => (ih t ht at_doc).1 (all_at t ht)) none_between later
    rw [current?, Option.some.injEq]
    constructor
    · rintro rfl
      exact found
    · exact found.unique
  | exhausted _ nothing =>
    refine ⟨fun at_doc => by simp [current?] at at_doc, fun found => ?_⟩
    have none_left := nothing doc found.reached
    rw [found.isMatch] at none_left
    exact absurd none_left (by decide)

/-- A settled tree without a match has none from its bound on. -/
theorem matchesDoc_eq_false (settled : Settled model bound t) (exhausted : t.current? = none)
    (reached : bound ≤ doc) : t.matchesDoc model doc = false := by
  rw [← Bool.not_eq_true]
  intro matched
  obtain ⟨least, -, found⟩ := LeastMatch.exists_le reached matched
  rw [(settled.current?_eq_some_iff least).2 found] at exhausted
  simp at exhausted

/-- Moving a tree behind its match moves a cursor. -/
theorem remaining_advanceTo_lt (settled : Settled model bound t) (at_doc : t.current? = some doc)
    {target : DocId} (before : doc < target) :
    (t.advanceTo target).remaining < t.remaining := by
  induction settled generalizing doc with
  | @leaf bound cursor qtf at_bound =>
    obtain ⟨first, head, rfl⟩ := Cursor.doc?_eq_some at_doc
    cases hrest : cursor.rest with
    | nil => simp [hrest] at head
    | cons p rest =>
      obtain rfl : p = first := by simpa [hrest] using head
      have dropped : (cursor.advanceTo target).rest.length < cursor.rest.length := by
        rw [Cursor.rest_advanceTo at_bound.ordered_rest, hrest,
          List.dropWhile_cons_of_pos (by simpa using before), List.length_cons]
        exact Nat.lt_succ_of_le (List.dropWhile_sublist _).length_le
      exact dropped
  | @any bound op args weights _ _ ih =>
    rw [advanceTo_combine]
    obtain ⟨t, ht, at_t⟩ := List.mem_filterMap.1 (List.min?_mem at_doc)
    exact remainingAll_map_lt (fun u _ => moved_advanceTo target u) ht (ih t ht at_t before)
  | @agreed bound reached at_it op args weights _ nonempty _ all_at _ _ ih =>
    rw [advanceTo_combine]
    obtain rfl : at_it = doc := Option.some.inj at_doc
    obtain ⟨t, ht⟩ := List.exists_mem_of_ne_nil args nonempty
    exact remainingAll_map_lt (fun u _ => moved_advanceTo target u) ht
      (ih t ht (all_at t ht) before)
  | exhausted _ _ => simp [current?] at at_doc

end Settled

end RankedRetrieval.ScoringTree
