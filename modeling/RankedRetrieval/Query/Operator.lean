/-!
# Query operators

## Main Definitions

* `Operator` — the operators that combine the arguments of a query
* `Operator.isPositional` — whether an operator yields positions
* `Operator.isWeighted` — whether an operator has a weight for each argument
* `Operator.text` — the keyword of an operator

## Design Notes

Positional operators merge the occurrences of their arguments into new occurrences.  Structural
operators combine documents and scores.  `score` turns the former into the latter.
-/

namespace RankedRetrieval

/-- The operators of the query language. -/
inductive Operator where
  /-- Occurrences of any argument. -/
  | syn
  /-- Occurrences of all arguments in order, each within `distance` of the one before. -/
  | near (distance : Nat)
  /-- Occurrences of all arguments in any order, within a span of `size` positions. -/
  | window (size : Nat)
  /-- Scores the documents of a positional argument. -/
  | score
  /-- Documents of any argument. -/
  | or
  /-- Documents of all arguments. -/
  | and
  /-- Documents of all arguments, weighted. -/
  | wand
  /-- The sum of the arguments' scores. -/
  | sum
  /-- The weighted mean of the arguments' scores. -/
  | wsum
  deriving DecidableEq

namespace Operator

/-- Whether an operator yields occurrences with positions. -/
def isPositional : Operator → Bool
  | syn | near _ | window _ => true
  | score | or | and | wand | sum | wsum => false

/-- Whether an operator has a weight for each argument. -/
def isWeighted : Operator → Bool
  | wand | wsum => true
  | syn | near _ | window _ | score | or | and | sum => false

/-- Whether repeated arguments of an operator are folded into one. -/
def foldsRepeats : Operator → Bool
  | and | sum | wsum => true
  | syn | near _ | window _ | score | or | wand => false

/-- The keyword of an operator. -/
def text : Operator → String
  | syn => "#syn"
  | near distance => "#near/" ++ Nat.repr distance
  | window size => "#window/" ++ Nat.repr size
  | score => "#score"
  | or => "#or"
  | and => "#and"
  | wand => "#wand"
  | sum => "#sum"
  | wsum => "#wsum"

end Operator

end RankedRetrieval
