import RankedRetrieval.Query.Tree

/-!
# Clean query trees

Operators that combine nothing are taken out of a query.

## Main Definitions

* `Query.pass` — one pass over a query
* `Query.cleanup` — a query after as many passes as change it

## Design Notes

A pass drops childless operators among the arguments and replaces an operator with a single
argument of its own kind by that argument.  The outermost operator is collapsed first and is
never dropped.  Every pass that changes a query makes it smaller, so its size bounds the number
of passes.
-/

namespace RankedRetrieval.Query

variable {α : Type}

/-- The only argument of an operator that collapses into it: an operator other than `score`
collapses into a single argument that is positional just as the operator is. -/
def collapsed? : Query α → Option (Query α)
  | apply op [q] _ =>
    if op ≠ .score && op.isPositional == q.isPositional then some q else none
  | _ => none

/-- A query with its outermost operators collapsed as far as they can be. -/
def collapseOuter : Query α → Query α
  | apply op [q] weights =>
    if op ≠ .score && op.isPositional == q.isPositional then collapseOuter q
    else apply op [q] weights
  | q => q

mutual
/-- A query whose arguments have been tidied once. -/
def tidy : Query α → Query α
  | term stem field => term stem field
  | apply op args weights => apply op (tidyArgs args) (tidyWeights args weights)

/-- Arguments after one pass: childless operators are gone, operators with a single argument of
their kind are replaced by it, and all others are tidied. -/
def tidyArgs : List (Query α) → List (Query α)
  | [] => []
  | q :: qs =>
    if q.isChildless then tidyArgs qs
    else
      match q.collapsed? with
      | some inner => inner :: tidyArgs qs
      | none => q.tidy :: tidyArgs qs

/-- The weights of the arguments that a pass keeps. -/
def tidyWeights : List (Query α) → List α → List α
  | [], _ => []
  | _, [] => []
  | q :: qs, w :: weights =>
    if q.isChildless then tidyWeights qs weights else w :: tidyWeights qs weights
end

/-- One pass over a query. -/
def pass (q : Query α) : Query α :=
  q.collapseOuter.tidy

/-- Passes over a query until its size no longer changes, at most as many as the first argument
says. -/
def passes : Nat → Query α → Query α
  | 0, q => q
  | fuel + 1, q => if q.pass.size = q.size then q.pass else passes fuel q.pass

/-- A query without operators that combine nothing. -/
def cleanup (q : Query α) : Query α :=
  passes q.size q

end RankedRetrieval.Query
