import RankedRetrieval.Positional.Cursor

/-!
# Merging inverted lists

The three ways in which positional operators make one inverted list of several.

## Main Definitions

* `Merge.synonym` — occurrences of any list
* `Merge.near` — occurrences of all lists in order, each close to the one before
* `Merge.window` — occurrences of all lists within a span

## Design Notes

`near` and `window` visit the documents that all lists hold; what happens inside a document is
a function of the position lists alone.  Each reported occurrence uses up positions of all
lists, so that no position belongs to two occurrences.
-/

namespace RankedRetrieval.Merge

/-! ### Occurrences of any list -/

/-- The first document that some cursor is at. -/
def leastDoc? (cs : List Cursor) : Option DocId :=
  (cs.filterMap Cursor.doc?).min?

/-- The positions of the cursors that are at a document, in increasing order. -/
def positionsAt (doc : DocId) (cs : List Cursor) : List Nat :=
  ((cs.filter fun c => c.doc? = some doc).flatMap fun c => Cursor.firstPositions c.rest).mergeSort

/-- Moves the cursors that are at a document past it. -/
def leave (doc : DocId) (cs : List Cursor) : List Cursor :=
  cs.map fun c => if c.doc? = some doc then c.advancePast doc else c

/-- The postings of any cursor, document by document.  The first argument bounds the number of
documents. -/
def unite : Nat → List Cursor → List Posting
  | 0, _ => []
  | fuel + 1, cs =>
    match leastDoc? cs with
    | none => []
    | some doc => ⟨doc, positionsAt doc cs⟩ :: unite fuel (leave doc cs)

/-- The postings of any list. -/
def synonym (lists : List InvertedList) : List Posting :=
  let cs := lists.map Cursor.start
  unite (Cursor.totalRemaining cs) cs

/-! ### Occurrences of all lists -/

/-- Moves the first cursor past a document. -/
def leaveFirst (doc : DocId) : List Cursor → List Cursor
  | [] => []
  | c :: cs => c.advancePast doc :: cs

/-- Visits the documents that all cursors hold and reports those with an occurrence.  The first
argument bounds the number of documents. -/
def intersect (occurrences : List (List Nat) → List Nat) : Nat → List Cursor → List Posting
  | 0, _ => []
  | fuel + 1, cs =>
    match Cursor.align cs with
    | none => []
    | some (doc, aligned) =>
      let found := occurrences (aligned.map Cursor.positions)
      let later := intersect occurrences fuel (leaveFirst doc aligned)
      if found.isEmpty then later else ⟨doc, found⟩ :: later

/-- The postings of the documents that all lists hold. -/
def common (occurrences : List (List Nat) → List Nat) (lists : List InvertedList) :
    List Posting :=
  let cs := lists.map Cursor.start
  intersect occurrences (Cursor.totalRemaining cs) cs

/-- Extends a chain that has reached `last` through further position lists, each step at most
`distance` long.  Yields the end of the chain, if a step is not too long, and what is left of
the lists; nothing when a list is exhausted. -/
def extend (distance last : Nat) : List (List Nat) → Option (Option Nat × List (List Nat))
  | [] => some (some last, [])
  | positions :: others =>
    match Cursor.skipPassed (· ≤ last) positions with
    | [] => none
    | now :: later =>
      if distance < now - last then some (none, (now :: later) :: others)
      else
        (extend distance now others).map fun extended =>
          (extended.1, Cursor.skipPassed (· ≤ now) (now :: later) :: extended.2)

/-- The ends of the chains that begin at successive anchors. -/
def chains (distance : Nat) : List Nat → List (List Nat) → List Nat
  | [], _ => []
  | anchor :: anchors, others =>
    match extend distance anchor others with
    | none => []
    | some (some last, left) => last :: chains distance anchors left
    | some (none, left) => chains distance anchors left

/-- The occurrences of position lists in order, each within `distance` after the one before.
The end of an occurrence is its position. -/
def nearOccurrences (distance : Nat) : List (List Nat) → List Nat
  | [] => []
  | anchors :: others => chains distance anchors others

/-- The postings of all lists in order, each position within `distance` after the one before. -/
def near (distance : Nat) (lists : List InvertedList) : List Posting :=
  common (nearOccurrences distance) lists

/-- Drops the first position of the first list that begins with `low`. -/
def dropLow (low : Nat) : List (List Nat) → List (List Nat)
  | [] => []
  | [] :: lists => [] :: dropLow low lists
  | (p :: positions) :: lists =>
    if p = low then positions :: lists else (p :: positions) :: dropLow low lists

/-- The first positions of all lists; nothing when a list is exhausted. -/
def heads? : List (List Nat) → Option (List Nat)
  | [] => some []
  | [] :: _ => none
  | (p :: _) :: lists => (heads? lists).map fun heads => p :: heads

/-- The occurrences of position lists whose positions span less than `size`.  The first argument
bounds the number of steps. -/
def spans (size : Nat) : Nat → List (List Nat) → List Nat
  | 0, _ => []
  | fuel + 1, lists =>
    match heads? lists with
    | none => []
    | some heads =>
      let low := heads.min?.getD 0
      let high := heads.max?.getD 0
      if high - low < size then high :: spans size fuel (lists.map List.tail)
      else spans size fuel (dropLow low lists)

/-- The occurrences of position lists in any order within a span of `size` positions.  The
greatest position of an occurrence is its position. -/
def windowOccurrences (size : Nat) (lists : List (List Nat)) : List Nat :=
  spans size (lists.foldr (fun positions n => positions.length + n) 0) lists

/-- The postings of all lists in any order, within a span of `size` positions. -/
def window (size : Nat) (lists : List InvertedList) : List Posting :=
  common (windowOccurrences size) lists

end RankedRetrieval.Merge
