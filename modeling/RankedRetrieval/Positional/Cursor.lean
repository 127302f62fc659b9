import RankedRetrieval.Index.Posting

/-!
# Cursors over inverted lists

A cursor moves forward over the documents of an inverted list and, within the current document,
over its positions.

## Main Definitions

* `Cursor` — a place in an inverted list
* `Cursor.advancePast`, `Cursor.advanceTo` — moving to a later document
* `Cursor.advancePosition`, `Cursor.advancePositionPast` — moving to a later position
* `Cursor.align` — the next document of all cursors

## Design Notes

A cursor is the part of the list that is still ahead of it.  Moving to another document starts
its positions anew; a move that stays at the document leaves them alone.

What is ahead is searched by halving.  In an increasing list that skips exactly the elements
that have been passed, and only there (`Cursor.skipPassed_eq_dropWhile`).
-/

namespace RankedRetrieval

/-- A place in an inverted list. -/
structure Cursor where
  /-- The list. -/
  list : InvertedList
  /-- The postings from the current one on. -/
  rest : List Posting
  /-- The positions of the current posting from the current one on. -/
  positions : List Nat
  deriving DecidableEq

namespace Cursor

/-- The positions of the first of some postings. -/
def firstPositions : List Posting → List Nat
  | [] => []
  | p :: _ => p.positions

/-- The cursor at the beginning of a list. -/
def start (l : InvertedList) : Cursor := ⟨l, l.postings, firstPositions l.postings⟩

/-- The current posting. -/
def posting? (c : Cursor) : Option Posting := c.rest.head?

/-- The current document. -/
def doc? (c : Cursor) : Option DocId := c.posting?.map Posting.doc

/-- The current position. -/
def position? (c : Cursor) : Option Nat := c.positions.head?

/-- The number of postings from the current one on. -/
def remaining (c : Cursor) : Nat := c.rest.length

/-- What is left of a list behind the elements that have been passed, found by halving.  Only
the middle of what is still in question is looked at, so the elements that have been passed
have to stand before all others. -/
def skipPassed {β : Type} (passed : β → Bool) (xs : List β) : List β :=
  if _long : 1 < xs.length then
    let half := xs.length / 2
    if passed xs[half] then skipPassed passed (xs.drop half)
    else skipPassed passed (xs.take (xs.length - half)) ++ xs.drop (xs.length - half)
  else xs.dropWhile passed
termination_by xs.length

/-- Dropping from two lists in a row stops within the first one when the second one begins with
an element that is kept. -/
theorem dropWhile_append_of_stop {β : Type} (passed : β → Bool) (xs ys : List β)
    (h : ∀ y ∈ ys.head?, passed y = false) :
    (xs ++ ys).dropWhile passed = xs.dropWhile passed ++ ys := by
  induction xs with
  | nil =>
    cases ys with
    | nil => rfl
    | cons y ys => simp [List.dropWhile, h y (by simp)]
  | cons x xs ih =>
    by_cases hx : passed x <;> simp [hx, ih]

/-- Dropping may begin at any element that is dropped. -/
theorem dropWhile_drop_of_passed {β : Type} (passed : β → Bool) (xs : List β) (n : Nat)
    (h : n < xs.length)
    (ordered : xs.Pairwise fun a b => passed b = true → passed a = true)
    (hn : passed xs[n] = true) :
    (xs.drop n).dropWhile passed = xs.dropWhile passed := by
  induction xs generalizing n with
  | nil => simp at h
  | cons x xs ih =>
    cases n with
    | zero => rfl
    | succ n =>
      have hx : passed x = true :=
        (List.pairwise_cons.1 ordered).1 _ (List.getElem_mem (by simpa using h)) (by simpa using hn)
      simp only [List.drop_succ_cons, List.dropWhile_cons, hx, if_true]
      exact ih n (by simpa using h) (List.pairwise_cons.1 ordered).2 (by simpa using hn)

/-- Where the elements that have been passed stand before all others, they are what is
skipped. -/
theorem skipPassed_eq_dropWhile {β : Type} (passed : β → Bool) (xs : List β)
    (ordered : xs.Pairwise fun a b => passed b = true → passed a = true) :
    skipPassed passed xs = xs.dropWhile passed := by
  fun_induction skipPassed passed xs with
  | case1 xs long half h ih =>
    rw [ih (ordered.sublist (List.drop_sublist _ _))]
    exact dropWhile_drop_of_passed passed xs half _ ordered h
  | case2 xs long half h ih =>
    rw [ih (ordered.sublist (List.take_sublist _ _))]
    refine Eq.trans ?_
      (congrArg (List.dropWhile passed) (List.take_append_drop (xs.length - half) xs))
    refine (dropWhile_append_of_stop passed _ _ fun y hy => ?_).symm
    simp only [List.head?_drop, Option.mem_def] at hy
    obtain ⟨hlt, rfl⟩ := List.getElem?_eq_some_iff.1 hy
    have half_eq : half = xs.length / 2 := rfl
    cases hp : passed xs[xs.length - half] with
    | false => rfl
    | true =>
      rcases Nat.lt_or_eq_of_le (show half ≤ xs.length - half by omega) with hl | hl
      · exact absurd (List.pairwise_iff_getElem.1 ordered half _ (by omega) hlt hl hp) h
      · exact absurd (by simpa only [← hl] using hp) h
  | case3 xs _ => rfl

/-- Moves past the postings whose documents have been passed. -/
def advanceWhile (passed : DocId → Bool) (c : Cursor) : Cursor :=
  let ahead := skipPassed (fun p => passed p.doc) c.rest
  if ahead.length < c.rest.length then ⟨c.list, ahead, firstPositions ahead⟩ else c

/-- Moves to the first document after `d`. -/
def advancePast (c : Cursor) (d : DocId) : Cursor :=
  c.advanceWhile (· ≤ d)

/-- Moves to the first document that is not before `d`. -/
def advanceTo (c : Cursor) (d : DocId) : Cursor :=
  c.advanceWhile (· < d)

/-- Moves to the next position of the current document. -/
def advancePosition (c : Cursor) : Cursor :=
  { c with positions := c.positions.tail }

/-- Moves to the first position after `p` in the current document. -/
def advancePositionPast (c : Cursor) (p : Nat) : Cursor :=
  { c with positions := skipPassed (· ≤ p) c.positions }

/-! ### Agreement of several cursors -/

/-- Moves cursors one after the other to a target, which grows to the document that each of
them meets; nothing when one of them is exhausted. -/
def sweep (target : DocId) : List Cursor → Option (DocId × List Cursor)
  | [] => some (target, [])
  | c :: cs =>
    let moved := c.advanceTo target
    match moved.doc? with
    | none => none
    | some doc => (sweep doc cs).map fun swept => (swept.1, moved :: swept.2)

/-- Sweeps until the target no longer grows.  The first argument bounds the number of sweeps. -/
def settle : Nat → DocId → List Cursor → Option (DocId × List Cursor)
  | 0, _, _ => none
  | fuel + 1, target, cs =>
    match sweep target cs with
    | none => none
    | some (doc, moved) => if doc = target then some (doc, moved) else settle fuel doc moved

/-- The number of postings ahead of some cursors. -/
def totalRemaining (cs : List Cursor) : Nat :=
  cs.foldr (fun c n => c.remaining + n) 0

/-- The next document that all cursors hold, with every cursor moved to it.  Every sweep that
raises the target moves a cursor, so there are no more sweeps than postings, and a last one. -/
def align : List Cursor → Option (DocId × List Cursor)
  | [] => none
  | c :: cs =>
    match c.doc? with
    | none => none
    | some target => settle (totalRemaining (c :: cs) + 1) target (c :: cs)

end Cursor

end RankedRetrieval
