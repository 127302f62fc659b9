import RankedRetrieval.Scoring.Tree

/-!
# Matches of a scoring tree

A scoring tree moves forward over the documents that it matches.

## Main Definitions

* `ScoringTree.current?` — the document a tree is at
* `ScoringTree.advancePast`, `ScoringTree.advanceTo` — moving to later documents
* `ScoringTree.settle` — finding the next match
* `ScoringTree.hasMatch` — whether there is a next match

## Design Notes

A combination that asks for all arguments settles them in rounds: while they disagree, all of
them advance to the greatest match among them.  Every such round moves a cursor, so the
postings that are ahead bound the number of rounds.  All other combinations are at the least
match of their arguments.  Advancing makes a combination forget where it was until it settles
again.
-/

namespace RankedRetrieval.ScoringTree

variable {α : Type}

/-- The document that a tree is at. -/
def current? : ScoringTree α → Option DocId
  | leaf cursor _ => cursor.doc?
  | combine _ _ _ current => current

/-- Whether a tree is at a document. -/
def isAt (t : ScoringTree α) (doc : DocId) : Bool :=
  t.current? = some doc

mutual
/-- Moves all cursors of a tree. -/
def advance (move : Cursor → Cursor) : ScoringTree α → ScoringTree α
  | leaf cursor qtf => leaf (move cursor) qtf
  | combine op args weights _ => combine op (advanceAll move args) weights none

/-- Moves all cursors of some trees. -/
def advanceAll (move : Cursor → Cursor) : List (ScoringTree α) → List (ScoringTree α)
  | [] => []
  | t :: ts => t.advance move :: advanceAll move ts
end

/-- Moves past a document. -/
def advancePast (t : ScoringTree α) (doc : DocId) : ScoringTree α :=
  t.advance fun cursor => cursor.advancePast doc

/-- Moves to the first documents that are not before a document. -/
def advanceTo (t : ScoringTree α) (doc : DocId) : ScoringTree α :=
  t.advance fun cursor => cursor.advanceTo doc

mutual
/-- The number of postings ahead of the cursors of a tree. -/
def remaining : ScoringTree α → Nat
  | leaf cursor _ => cursor.remaining
  | combine _ args _ _ => remainingAll args

/-- The number of postings ahead of the cursors of some trees. -/
def remainingAll : List (ScoringTree α) → Nat
  | [] => 0
  | t :: ts => t.remaining + remainingAll ts
end

mutual
/-- The number of operators above the deepest leaf. -/
def depth : ScoringTree α → Nat
  | leaf _ _ => 0
  | combine _ args _ _ => depthAll args + 1

/-- The greatest depth of some trees. -/
def depthAll : List (ScoringTree α) → Nat
  | [] => 0
  | t :: ts => max t.depth (depthAll ts)
end

/-! ### Settling -/

/-- Settles arguments from left to right until one of them has no match.  Yields the matches when
all of them have one. -/
def survey (settleArg : ScoringTree α → ScoringTree α) :
    List (ScoringTree α) → List (ScoringTree α) × Option (List DocId)
  | [] => ([], some [])
  | t :: ts =>
    let settled := settleArg t
    match settled.current? with
    | none => (settled :: ts, none)
    | some doc =>
      let (others, docs?) := survey settleArg ts
      (settled :: others, docs?.map fun docs => doc :: docs)

/-- The greatest of some documents. -/
def latest (docs : List DocId) : DocId := docs.foldl max 0

/-- Settles arguments in rounds until they agree on a match or one of them has none.  The first
argument after the settling bounds the number of rounds. -/
def agree (settleArg : ScoringTree α → ScoringTree α) :
    Nat → List (ScoringTree α) → List (ScoringTree α) × Option DocId
  | 0, ts => (ts, none)
  | rounds + 1, ts =>
    match survey settleArg ts with
    | (settled, none) => (settled, none)
    | (settled, some docs) =>
      if docs.all (· = latest docs) then (settled, some (latest docs))
      else agree settleArg rounds (settled.map fun t => t.advanceTo (latest docs))

/-- Settles arguments on a match of all of them. -/
def settleOnAll (settleArg : ScoringTree α → ScoringTree α) (args : List (ScoringTree α)) :
    List (ScoringTree α) × Option DocId :=
  if args.isEmpty then (args, none) else agree settleArg (remainingAll args + 1) args

/-- Settles arguments on the least of their matches. -/
def settleOnLeast (settleArg : ScoringTree α → ScoringTree α) (args : List (ScoringTree α)) :
    List (ScoringTree α) × Option DocId :=
  let settled := args.map settleArg
  (settled, (settled.filterMap current?).min?)

/-- Whether an operator asks for all of its arguments under a model. -/
def asksForAll (model : RetrievalModel α) (op : Operator) : Bool :=
  (op = .and || op = .wand) && !model.smoothsMissing

/-- Settles a tree of bounded depth. -/
def settleWithin (model : RetrievalModel α) : Nat → ScoringTree α → ScoringTree α
  | _, leaf cursor qtf => leaf cursor qtf
  | 0, t => t
  | depth + 1, combine op args weights _ =>
    let (settled, current) :=
      if asksForAll model op then settleOnAll (settleWithin model depth) args
      else settleOnLeast (settleWithin model depth) args
    combine op settled weights current

/-- A tree at its next match. -/
def settle (model : RetrievalModel α) (t : ScoringTree α) : ScoringTree α :=
  settleWithin model t.depth t

/-- Whether a tree has a next match. -/
def hasMatch (model : RetrievalModel α) (t : ScoringTree α) : Bool :=
  (t.settle model).current?.isSome

end RankedRetrieval.ScoringTree
