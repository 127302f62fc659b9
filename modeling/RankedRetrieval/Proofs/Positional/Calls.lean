import Mathlib.Data.List.Induction
import RankedRetrieval.Proofs.Positional.Movement
import RankedRetrieval.Proofs.Positional.Selection

/-!
# Cursors under arbitrary calls

A cursor may be moved over documents and over positions in any order.  The document that it is at
depends only on the bounds that it was given.

## Main Definitions

* `Cursor.Call` — what can be asked of a cursor
* `Cursor.run` — the cursor after some calls
* `Cursor.Offsets` — a cursor as two offsets into its list
* `Cursor.BoundOnly` — what a cursor shows after some calls

## Main Results

* `Cursor.run_offsets` — no call takes a part of a list that begins behind its end
* `Cursor.exists_at_run` — calls amount to one bound of documents
* `Cursor.run_boundOnly` — over increasing postings, a cursor shows what its calls ask for

## Design Notes

**Offsets are checked.**  A cursor keeps the parts of its lists that are ahead, so it cannot be
out of range.  Kept as offsets, a part has to be taken anew at each call, and taking it fails when
the offset is behind the end.  The offset into the postings never is.  The one into the positions
may be, and no positions are ahead then.

**Positions are left behind with their document.**  A move that reaches another document starts the
positions anew, so only the calls since then decide which position is the current one.
-/

namespace RankedRetrieval.Cursor

/-! ### Calls -/

/-- What can be asked of a cursor. -/
inductive Call where
  /-- To move to the first document after a document. -/
  | advancePast (doc : DocId)
  /-- To move to the first document that is not before a document. -/
  | advanceTo (doc : DocId)
  /-- To move to the next position. -/
  | advancePosition
  /-- To move to the first position after a position. -/
  | advancePositionPast (position : Nat)

namespace Call

/-- The cursor after a call. -/
def apply (c : Cursor) : Call → Cursor
  | advancePast doc => c.advancePast doc
  | advanceTo doc => c.advanceTo doc
  | advancePosition => c.advancePosition
  | advancePositionPast position => c.advancePositionPast position

/-- Whether a call leaves a document ahead. -/
def leaves (doc : DocId) : Call → Bool
  | advancePast passed => passed < doc
  | advanceTo target => target ≤ doc
  | advancePosition | advancePositionPast _ => true

/-- Whether a call asks for a move over documents. -/
def movesDocuments : Call → Bool
  | advancePast _ | advanceTo _ => true
  | advancePosition | advancePositionPast _ => false

/-- The first document that a call leaves ahead. -/
def bound : Call → DocId
  | advancePast doc => doc + 1
  | advanceTo doc => doc
  | advancePosition | advancePositionPast _ => 0

theorem leaves_eq (call : Call) (doc : DocId) : call.leaves doc = decide (call.bound ≤ doc) := by
  cases call with
  | advancePast | advanceTo => rfl
  | advancePosition | advancePositionPast => simp [leaves, bound]

end Call

/-- The cursor after some calls. -/
def run (calls : List Call) (c : Cursor) : Cursor :=
  calls.foldl Call.apply c

/-- The moves past some positions. -/
def pastPositions (bounds : List Nat) : List Call :=
  bounds.map .advancePositionPast

theorem run_append (calls more : List Call) (c : Cursor) :
    run (calls ++ more) c = run more (run calls c) := by
  rw [run, run, run, List.foldl_append]

/-! ### Offsets -/

/-- A cursor as the offset of its posting in the list and the offset of its position in the
posting. -/
structure Offsets where
  /-- How many postings are before the current one. -/
  posting : Nat
  /-- How many positions have been left behind since the current posting was reached. -/
  position : Nat

namespace Offsets

variable {β : Type}

/-- The part of a list from an offset on; nothing when the offset is behind the end. -/
def slice? (xs : List β) (offset : Nat) : Option (List β) :=
  if offset ≤ xs.length then some (xs.drop offset) else none

/-- The number of elements that have been passed, found by halving. -/
def passedCount (passed : β → Bool) (xs : List β) : Nat :=
  xs.length - (skipPassed passed xs).length

/-- Moves past the postings whose documents have been passed. -/
def advanceWhile (l : InvertedList) (passed : DocId → Bool) (o : Offsets) : Option Offsets :=
  (slice? l.postings o.posting).map fun ahead =>
    let count := passedCount (fun p => passed p.doc) ahead
    if 0 < count then ⟨o.posting + count, 0⟩ else o

/-- Moves past positions of the current posting. -/
def advancePositionPast (l : InvertedList) (bound : Nat) (o : Offsets) : Offsets :=
  match l.postings[o.posting]? with
  | none => o
  | some p =>
    let ahead := (slice? p.positions o.position).getD []
    { o with position := o.position + passedCount (· ≤ bound) ahead }

/-- The offsets after a call; nothing when it takes a part of the list that begins behind its
end. -/
def apply (l : InvertedList) (o : Offsets) : Call → Option Offsets
  | .advancePast doc => o.advanceWhile l (· ≤ doc)
  | .advanceTo doc => o.advanceWhile l (· < doc)
  | .advancePosition => some { o with position := o.position + 1 }
  | .advancePositionPast bound => some (o.advancePositionPast l bound)

/-- The offsets after some calls. -/
def run (l : InvertedList) (calls : List Call) : Option Offsets :=
  calls.foldlM (apply l) ⟨0, 0⟩

/-- Offsets into a list, and a cursor over the list with the same parts ahead. -/
structure Show (l : InvertedList) (o : Offsets) (c : Cursor) : Prop where
  /-- The cursor is one over the list. -/
  list_eq : c.list = l
  /-- The offset of the posting is not behind the end of the list. -/
  in_range : o.posting ≤ l.postings.length
  /-- The postings from there on are ahead. -/
  rest_eq : c.rest = l.postings.drop o.posting
  /-- The positions from their offset on are ahead. -/
  positions_eq : c.positions = (firstPositions c.rest).drop o.position

theorem drop_passedCount (passed : β → Bool) (xs : List β) :
    xs.drop (passedCount passed xs) = skipPassed passed xs :=
  (List.suffix_iff_eq_drop.1 (skipPassed_suffix passed xs)).symm

theorem slice?_getD (xs : List β) (offset : Nat) :
    (slice? xs offset).getD [] = xs.drop offset := by
  unfold slice?
  split
  · rfl
  · rename_i behind
    exact (List.drop_eq_nil_of_le (Nat.le_of_not_le behind)).symm

variable {l : InvertedList} {o : Offsets} {c : Cursor}

theorem show_start (l : InvertedList) : Show l ⟨0, 0⟩ (Cursor.start l) where
  list_eq := rfl
  in_range := Nat.zero_le _
  rest_eq := rfl
  positions_eq := rfl

/-- The posting at the offset is the first one that is ahead. -/
theorem Show.firstPositions_eq (same : Show l o c) :
    firstPositions c.rest = ((l.postings[o.posting]?).map Posting.positions).getD [] := by
  rw [same.rest_eq, ← List.head?_drop]
  cases l.postings.drop o.posting <;> rfl

/-- A move over documents finds its part of the list in range. -/
theorem Show.advanceWhile (same : Show l o c) (passed : DocId → Bool) :
    ∃ moved, o.advanceWhile l passed = some moved ∧ Show l moved (c.advanceWhile passed) := by
  have ahead : slice? l.postings o.posting = some c.rest := by
    rw [slice?, if_pos same.in_range, same.rest_eq]
  have fewer := (skipPassed_suffix (fun p => passed p.doc) c.rest).length_le
  have whole : c.rest.length = l.postings.length - o.posting := by
    rw [same.rest_eq, List.length_drop]
  rw [Offsets.advanceWhile, ahead, Option.map_some]
  refine ⟨_, rfl, ?_⟩
  unfold Cursor.advanceWhile
  dsimp only
  by_cases moves : (skipPassed (fun p => passed p.doc) c.rest).length < c.rest.length
  · rw [if_pos (by unfold passedCount; omega), if_pos moves]
    refine ⟨same.list_eq, ?_, ?_, rfl⟩
    · have in_range := same.in_range
      unfold passedCount
      dsimp only
      omega
    · dsimp only
      rw [← List.drop_drop, ← same.rest_eq, drop_passedCount]
  · rw [if_neg (by unfold passedCount; omega), if_neg moves]
    exact same

/-- A move over positions is the same on offsets. -/
theorem Show.advancePositionPast (same : Show l o c) (bound : Nat) :
    Show l (o.advancePositionPast l bound) (c.advancePositionPast bound) := by
  have current := same.firstPositions_eq
  unfold Offsets.advancePositionPast Cursor.advancePositionPast
  cases found : l.postings[o.posting]? with
  | none =>
    -- nothing is ahead of an exhausted cursor
    rw [found] at current
    have nothing : c.positions = [] := by rw [same.positions_eq, current]; exact List.drop_nil
    refine ⟨same.list_eq, same.in_range, same.rest_eq, ?_⟩
    rw [nothing, skipPassed_nil, current]
    exact List.drop_nil.symm
  | some p =>
    rw [found] at current
    refine ⟨same.list_eq, same.in_range, same.rest_eq, ?_⟩
    have ahead : (slice? p.positions o.position).getD [] = c.positions := by
      rw [slice?_getD, same.positions_eq, current]
      rfl
    dsimp only
    rw [ahead, ← List.drop_drop, ← same.positions_eq, drop_passedCount]

theorem Show.apply (same : Show l o c) (call : Call) :
    ∃ moved, o.apply l call = some moved ∧ Show l moved (call.apply c) := by
  cases call with
  | advancePast doc => exact same.advanceWhile (· ≤ doc)
  | advanceTo doc => exact same.advanceWhile (· < doc)
  | advancePosition =>
    refine ⟨_, rfl, same.list_eq, same.in_range, same.rest_eq, ?_⟩
    dsimp only [Call.apply, Cursor.advancePosition]
    rw [same.positions_eq, ← List.drop_one, List.drop_drop]
  | advancePositionPast bound => exact ⟨_, rfl, same.advancePositionPast bound⟩

end Offsets

/-- Whatever is asked of a cursor, no part of a list is taken from behind its end, and the offsets
lead to what the cursor has ahead. -/
theorem run_offsets (l : InvertedList) (calls : List Call) :
    ∃ o, Offsets.run l calls = some o ∧ o.Show l (run calls (start l)) := by
  induction calls using List.reverseRecOn with
  | nil => exact ⟨⟨0, 0⟩, rfl, Offsets.show_start l⟩
  | append_singleton calls call ih =>
    obtain ⟨o, reached, same⟩ := ih
    obtain ⟨moved, applied, same_after⟩ := same.apply call
    refine ⟨moved, ?_, ?_⟩
    · rw [Offsets.run, List.foldlM_append, ← Offsets.run, reached]
      simpa using applied
    · rw [run_append]
      exact same_after

/-! ### Documents -/

section Documents

variable {bound : DocId} {c : Cursor} {l : InvertedList}

/-- A call raises the bound of a cursor to its own. -/
theorem At.call (at_bound : c.At bound) (call : Call) :
    (call.apply c).At (max bound call.bound) := by
  cases call with
  | advancePast doc =>
    rw [Call.apply, advancePast_eq_advanceTo]
    exact at_bound.advanceTo (doc + 1)
  | advanceTo doc => exact at_bound.advanceTo doc
  | advancePosition | advancePositionPast =>
    rw [Call.bound, max_eq_left (Nat.zero_le bound)]
    exact ⟨at_bound.ordered, at_bound.rest_eq⟩

@[simp]
theorem list_apply (call : Call) (c : Cursor) : (call.apply c).list = c.list := by
  cases call with
  | advancePast doc => exact list_advanceWhile _ c
  | advanceTo doc => exact list_advanceWhile _ c
  | advancePosition | advancePositionPast => rfl

@[simp]
theorem list_run (calls : List Call) (c : Cursor) : (run calls c).list = c.list := by
  induction calls generalizing c with
  | nil => rfl
  | cons call calls ih => exact (ih (call.apply c)).trans (list_apply call c)

/-- The documents that some calls have left ahead are those from some bound on. -/
theorem exists_at_run (ordered : Ordered l.postings) (calls : List Call) :
    ∃ bound, (∀ doc, calls.all (·.leaves doc) = decide (bound ≤ doc)) ∧
      (run calls (start l)).At bound := by
  -- the last call comes on top of a bound for those before it
  induction calls using List.reverseRecOn with
  | nil => exact ⟨0, by simp, At.start ordered⟩
  | append_singleton calls call ih =>
    obtain ⟨bound, left_eq, at_bound⟩ := ih
    refine ⟨max bound call.bound, fun doc => ?_, ?_⟩
    · rw [List.all_append, left_eq, List.all_cons, List.all_nil, call.leaves_eq, Bool.and_true,
        ← Bool.decide_and]
      exact decide_eq_decide.2 max_le_iff.symm
    · rw [run_append]
      exact at_bound.call call

/-- The current posting is the first one whose document is not before the bound. -/
theorem At.posting?_eq (at_bound : c.At bound) :
    c.posting? = c.list.postings.find? fun p => decide (bound ≤ p.doc) := by
  rw [posting?, at_bound.rest_eq, List.find?_eq_head?_dropWhile_not]
  congr 2
  funext p
  rw [← decide_not]
  exact decide_eq_decide.2 Nat.not_le.symm

/-- The current posting is the first one whose document all calls have left ahead. -/
theorem posting?_run (ordered : Ordered l.postings) (calls : List Call) :
    (run calls (start l)).posting? =
      l.postings.find? fun p => calls.all (·.leaves p.doc) := by
  obtain ⟨bound, left_eq, at_bound⟩ := exists_at_run ordered calls
  rw [at_bound.posting?_eq, list_run]
  simp only [left_eq]
  rfl

/-- A cursor that has left postings for a later one, whose positions it starts anew. -/
structure Left (c later : Cursor) : Prop where
  /-- What is ahead was ahead before. -/
  suffix : later.rest <:+ c.rest
  /-- A posting has been left. -/
  shorter : later.rest.length < c.rest.length
  /-- No position of the posting that has been reached has been passed. -/
  positions_eq : later.positions = firstPositions later.rest

/-- A move over documents leaves a cursor alone, unless it leaves a posting. -/
theorem advanceWhile_cases (passed : DocId → Bool) (c : Cursor) :
    c.advanceWhile passed = c ∨ c.Left (c.advanceWhile passed) := by
  unfold advanceWhile
  dsimp only
  split
  · rename_i shorter
    exact .inr ⟨skipPassed_suffix _ c.rest, shorter, rfl⟩
  · exact .inl rfl

theorem apply_cases {call : Call} (moves : call.movesDocuments = true) (c : Cursor) :
    call.apply c = c ∨ c.Left (call.apply c) := by
  cases call with
  | advancePast doc => exact advanceWhile_cases (fun other => other ≤ doc) c
  | advanceTo doc => exact advanceWhile_cases (fun other => other < doc) c
  | advancePosition | advancePositionPast => simp [Call.movesDocuments] at moves

/-- A posting that is left takes its document with it, as the documents increase. -/
theorem Left.doc?_ne {later : Cursor} (left : c.Left later) (increasing : Increasing c.rest) :
    later.doc? ≠ c.doc? := by
  intro same
  obtain ⟨dropped, split⟩ := left.suffix
  cases dropped with
  | nil =>
    have shorter := left.shorter
    rw [← split, List.nil_append] at shorter
    exact absurd shorter (Nat.lt_irrefl _)
  | cons p dropped =>
    rw [List.cons_append] at split
    have first : c.doc? = some p.doc := by rw [doc?, posting?, ← split]; rfl
    obtain ⟨q, head, doc_eq⟩ := doc?_eq_some (same.trans first)
    have ahead : q ∈ dropped ++ later.rest :=
      List.mem_append_right dropped (List.mem_of_head? head)
    rw [← split] at increasing
    have before := (List.pairwise_cons.1 increasing).1 q ahead
    exact absurd doc_eq.symm (Nat.ne_of_lt before)

end Documents

/-! ### Positions -/

section Positions

variable {positions : List Nat} {c : Cursor}

/-- On ascending positions the search by halving keeps those behind a bound. -/
theorem skipPassed_eq_filter (ascending : positions.Pairwise (· < ·)) (bound : Nat) :
    skipPassed (· ≤ bound) positions = positions.filter (bound < ·) := by
  rw [Merge.skipPassed_eq_dropWhile_le (ascending.imp Nat.le_of_lt)]
  induction positions with
  | nil => rfl
  | cons x positions ih =>
    obtain ⟨before, ascending⟩ := List.pairwise_cons.1 ascending
    by_cases passed : x ≤ bound
    · rw [List.dropWhile_cons_of_pos (by simpa using passed), ih ascending,
        List.filter_cons_of_neg (by simpa using passed)]
    · have behind : bound < x := Nat.lt_of_not_le passed
      have all_behind : ∀ y ∈ x :: positions, decide (bound < y) = true :=
        List.forall_mem_cons.2 ⟨by simpa using behind,
          fun y hy => decide_eq_true (Nat.lt_trans behind (before y hy))⟩
      rw [List.dropWhile_cons_of_neg (by simpa using behind), List.filter_eq_self.2 all_behind]

/-- Moves past positions leave the positions behind all of them. -/
theorem positions_run_pastPositions (ascending : c.positions.Pairwise (· < ·))
    (bounds : List Nat) : (run (pastPositions bounds) c).positions =
      c.positions.filter fun x => bounds.all (· < x) := by
  induction bounds generalizing c with
  | nil => exact (List.filter_eq_self.2 fun _ _ => rfl).symm
  | cons bound bounds ih =>
    have moved : (c.advancePositionPast bound).positions = c.positions.filter (bound < ·) :=
      skipPassed_eq_filter ascending bound
    have later : (c.advancePositionPast bound).positions.Pairwise (· < ·) := by
      rw [moved]
      exact ascending.sublist List.filter_sublist
    refine (ih later).trans ?_
    rw [moved, List.filter_filter]
    simp only [List.all_cons, Bool.and_comm]

end Positions

/-! ### What a cursor shows -/

/-- What a cursor over a list shows after some calls. -/
structure BoundOnly (l : InvertedList) (calls : List Call) : Prop where
  /-- With offsets, no part of a list is taken from behind its end, and the same is ahead. -/
  in_range : ∃ o, Offsets.run l calls = some o ∧ o.Show l (run calls (start l))
  /-- The cursor is at the first document that all calls have left ahead, if there is one. -/
  doc?_eq : (run calls (start l)).doc? =
    (l.postings.map Posting.doc).find? fun doc => calls.all (·.leaves doc)
  /-- A move over documents that stays at a document leaves the positions alone. -/
  stays : ∀ move : Call, move.movesDocuments = true →
    (run (calls ++ [move]) (start l)).doc? = (run calls (start l)).doc? →
      run (calls ++ [move]) (start l) = run calls (start l)
  /-- One that leaves it starts the positions anew. -/
  starts_anew : ∀ move : Call, move.movesDocuments = true →
    (run (calls ++ [move]) (start l)).doc? ≠ (run calls (start l)).doc? →
      (run (calls ++ [move]) (start l)).positions =
        firstPositions (run (calls ++ [move]) (start l)).rest
  /-- From the beginning of a posting, moves past positions lead to the first position behind all
  of them, if there is one. -/
  position?_eq : ∀ p, (run calls (start l)).posting? = some p → p.positions.Pairwise (· < ·) →
    (run calls (start l)).positions = p.positions → ∀ bounds,
      (run (calls ++ pastPositions bounds) (start l)).position? =
        p.positions.find? fun x => bounds.all (· < x)

/-- Over increasing postings, what a cursor shows after any calls depends only on the bounds that
it was given. -/
theorem run_boundOnly {l : InvertedList} (increasing : Increasing l.postings)
    (calls : List Call) : BoundOnly l calls where
  in_range := run_offsets l calls
  doc?_eq := by
    rw [doc?, posting?_run increasing.ordered, List.find?_map]
    rfl
  stays move moves same := by
    rw [run_append] at same ⊢
    rcases apply_cases moves (run calls (start l)) with stayed | left
    · exact stayed
    · obtain ⟨o, -, shown⟩ := run_offsets l calls
      have ahead : Increasing (run calls (start l)).rest := by
        rw [shown.rest_eq]
        exact increasing.sublist (List.drop_sublist _ _)
      exact absurd same (left.doc?_ne ahead)
  starts_anew move moves other := by
    rw [run_append] at other ⊢
    rcases apply_cases moves (run calls (start l)) with stayed | left
    · exact absurd (congrArg doc? stayed) other
    · exact left.positions_eq
  position?_eq p at_p ascending fresh bounds := by
    have begun : (run calls (start l)).positions.Pairwise (· < ·) := by rwa [fresh]
    rw [run_append, position?, positions_run_pastPositions begun, fresh, List.head?_filter]

/-- A cursor that is moved to a document twice, and in between to its second position there. -/
theorem run_boundOnly_three :
    let l : InvertedList := ⟨"body", [⟨0, [1, 4]⟩, ⟨2, [0, 3, 7]⟩, ⟨5, [2]⟩]⟩
    let calls : List Call := [.advanceTo 1, .advancePosition, .advancePast 0, .advanceTo 2]
    Increasing l.postings ∧ (run calls (start l)).doc? = some 2 ∧
      (run calls (start l)).position? = some 3 ∧ BoundOnly l calls := by
  intro l calls
  have increasing : Increasing l.postings := by unfold Increasing; decide
  exact ⟨increasing, by decide +kernel, by decide +kernel, run_boundOnly increasing calls⟩

end RankedRetrieval.Cursor
