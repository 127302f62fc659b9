import RankedRetrieval.Model
import RankedRetrieval.Positional.Evaluation

/-!
# Scoring trees

A query is made ready for scoring by evaluating its positional parts and checking its operators
against the retrieval model.

## Main Definitions

* `ScoringTree` — a query over cursors
* `Argument.foldRepeats` — arguments with repeated ones folded into one
* `Query.scoringTree` — the scoring tree of a query

## Design Notes

Repeated scored arguments are recognised by their text.  They are folded into the first of
them, whose weight becomes the sum of their weights and whose count the number of them.
-/

namespace RankedRetrieval

/-- A query over cursors.  A combination remembers the document that it was found at. -/
inductive ScoringTree (α : Type) where
  /-- A scored inverted list that stands for a number of identical arguments. -/
  | leaf (cursor : Cursor) (qtf : Nat)
  /-- An operator over arguments with one weight each, at a document or at none. -/
  | combine (op : Operator) (args : List (ScoringTree α)) (weights : List α)
    (current : Option DocId)

/-- An argument of an operator, with its weight and the number of arguments it stands for. -/
structure Argument (α β : Type) where
  /-- The text by which its repeats are recognised, if it can have repeats. -/
  key? : Option String
  /-- What the argument is. -/
  item : β
  /-- The sum of the weights. -/
  weight : α
  /-- The number of arguments. -/
  count : Nat

namespace Argument

variable {α β : Type} [Scalar α]

/-- Arguments with their weights; a weight that is missing is one. -/
def ofWeights : List (Option String × β) → List α → List (Argument α β)
  | [], _ => []
  | (key?, item) :: rest, [] => ⟨key?, item, Scalar.ofNat 1, 1⟩ :: ofWeights rest []
  | (key?, item) :: rest, w :: weights => ⟨key?, item, w, 1⟩ :: ofWeights rest weights

/-- Adds a repeat to the first argument with its key, or puts it at the end. -/
def foldInto (repeated : Argument α β) : List (Argument α β) → List (Argument α β)
  | [] => [repeated]
  | f :: rest =>
    if repeated.key?.isSome ∧ f.key? = repeated.key? then
      { f with weight := f.weight + repeated.weight, count := f.count + repeated.count } :: rest
    else f :: foldInto repeated rest

/-- Arguments with every repeat folded into its first occurrence. -/
def foldRepeats (args : List (Argument α β)) : List (Argument α β) :=
  args.foldl (fun folded f => foldInto f folded) []

/-- The arguments that an operator scores. -/
def forOperator (op : Operator) (items : List (Option String × β)) (weights : List α) :
    List (Argument α β) :=
  if op.foldsRepeats then foldRepeats (ofWeights items weights) else ofWeights items weights

end Argument

namespace Query

variable {α : Type} [Scalar α] [Numeral α]

/-- The text by which repeats of an argument are recognised; only scored ones have repeats. -/
def repeatKey? : Query α → Option String
  | apply .score args weights => some (apply .score args weights).text
  | _ => none

/-- The error of an operator that a model does not score. -/
def unsupported (model : RetrievalModel α) (op : Operator) : QueryError :=
  .unsupported model.name op.text

/-- The scored inverted list of a positional query. -/
def scoringLeaf (index : Index) (q : Query α) (qtf : Nat) :
    Except QueryError (ScoringTree α) :=
  (q.positional index).map fun list => .leaf (Cursor.start list) qtf

/-- The scoring trees of arguments, from left to right, each for the number of arguments it
stands for. -/
def buildAll :
    List (Argument α (Nat → Except QueryError (ScoringTree α))) →
      Except QueryError (List (ScoringTree α))
  | [] => .ok []
  | f :: rest =>
    match f.item f.count with
    | .error e => .error e
    | .ok tree => (buildAll rest).map fun trees => tree :: trees

mutual
/-- The scoring tree of a query that stands for a number of identical arguments. -/
def build (index : Index) (model : RetrievalModel α) :
    Query α → Nat → Except QueryError (ScoringTree α)
  | term stem field, qtf =>
    if model.supports .score then scoringLeaf index (term stem field) qtf
    else .error (unsupported model .score)
  | apply op args weights, qtf =>
    if op.isPositional then
      if model.supports .score then scoringLeaf index (apply op args weights) qtf
      else .error (unsupported model .score)
    else if !model.supports op then .error (unsupported model op)
    else if op = .score then
      match args with
      | [] => .error (.notPositional (apply op args weights).text)
      | inner :: _ => scoringLeaf index inner qtf
    else
      let folded := Argument.forOperator op (builders index model args) weights
      (buildAll folded).map fun trees => .combine op trees (folded.map Argument.weight) none

/-- For each of some queries the text of its repeats and its scoring tree by count. -/
def builders (index : Index) (model : RetrievalModel α) :
    List (Query α) → List (Option String × (Nat → Except QueryError (ScoringTree α)))
  | [] => []
  | q :: qs => (q.repeatKey?, build index model q) :: builders index model qs
end

/-- The scoring tree of a query. -/
def scoringTree (index : Index) (model : RetrievalModel α) (q : Query α) :
    Except QueryError (ScoringTree α) :=
  build index model q 1

end Query

end RankedRetrieval
