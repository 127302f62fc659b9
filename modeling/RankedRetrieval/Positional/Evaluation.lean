import RankedRetrieval.Index.Basic
import RankedRetrieval.Positional.Merge
import RankedRetrieval.Query.Error
import RankedRetrieval.Query.Tree

/-!
# Evaluation of positional queries

A positional query stands for an inverted list.

## Main Definitions

* `Query.positional` — the inverted list of a positional query

## Design Notes

The arguments of a positional operator are evaluated from left to right and have to share one
field, which becomes the field of the result.  An operator without arguments yields an empty
list without a field.
-/

namespace RankedRetrieval.Query

variable {α : Type} [Numeral α]

/-- The postings that a positional operator makes of the lists of its arguments. -/
def mergePostings : Operator → List InvertedList → List Posting
  | .syn, lists => Merge.synonym lists
  | .near distance, lists => Merge.near distance lists
  | .window size, lists => Merge.window size lists
  | _, _ => []

/-- The inverted list that a positional operator makes of the lists of its arguments. -/
def merge (op : Operator) (lists : List InvertedList) : InvertedList where
  field := (lists.head?.map InvertedList.field).getD ""
  postings := mergePostings op lists

mutual
/-- The inverted list of a positional query. -/
def positional (index : Index) : Query α → Except QueryError InvertedList
  | term stem field => .ok (index.invertedList stem field)
  | apply op args weights =>
    if op.isPositional then (positionalArgs index op none args).map (merge op)
    else .error (.notPositional (apply op args weights).text)

/-- The inverted lists of the arguments of an operator.  Once the first of them is known, the
others have to lie in its field. -/
def positionalArgs (index : Index) (op : Operator) :
    Option String → List (Query α) → Except QueryError (List InvertedList)
  | _, [] => .ok []
  | first, q :: qs =>
    match positional index q with
    | .error e => .error e
    | .ok list =>
      let field := first.getD list.field
      if field = list.field then
        (positionalArgs index op (some field) qs).map fun lists => list :: lists
      else .error (.fieldMismatch op.text field list.field)
end

end RankedRetrieval.Query
