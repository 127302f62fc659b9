import RankedRetrieval.Query.Parser
import RankedRetrieval.Ranking.Execution
import RankedRetrieval.Run.Action
import RankedRetrieval.Run.Input

/-!
# Retrieval

Every query of a file is run by itself, and its best documents are written.

## Main Definitions

* `Retrieval.evaluate` — the ranked result of a query text
* `Retrieval.block` — the lines that are written for a query
* `Retrieval.run` — a run over a file of queries

## Design Notes

A query with an error of its own is skipped: it writes nothing and the run goes on.  Any other
error ends the run, and what was written for earlier queries stays.
-/

namespace RankedRetrieval.Retrieval

variable {α β : Type}

/-- A result without the errors that are confined to a query. -/
def skipLocal : Except QueryError β → Except QueryError (Option β)
  | .ok b => .ok (some b)
  | .error e => if e.isQueryLocal then .ok none else .error e

variable [Scalar α] [Numeral α]

/-- The query that a text denotes under a model; nothing for a query that is skipped. -/
def parse (model : RetrievalModel α) (text : String) : Except QueryError (Option (Query α)) :=
  skipLocal (Query.parse model.defaultOperator text)

/-- The ranked result of a query; nothing for one that is skipped. -/
def results (index : Index) (model : RetrievalModel α) (q : Query α) :
    Except QueryError (Option (ScoreList α)) :=
  (skipLocal (q.execute index model)).map fun list? => list?.map ScoreList.rank

/-- The ranked result of a query text; nothing for one that is skipped. -/
def evaluate (index : Index) (model : RetrievalModel α) (text : String) :
    Except QueryError (Option (ScoreList α)) :=
  match parse model text with
  | .error e => .error e
  | .ok none => .ok none
  | .ok (some q) => results index model q

/-- The lines of the result of a query, if there is one. -/
def lines (qid : String) (list? : Option (ScoreList α)) : String :=
  (list?.map (RankingFile.text qid)).getD ""

/-- The pieces of these lines. -/
def pieces (qid : String) (list? : Option (ScoreList α)) : List String :=
  (list?.map (RankingFile.pieces qid)).getD []

/-- The lines that are written for a query. -/
def block (index : Index) (model : RetrievalModel α) (query : String × String) :
    Except QueryError String :=
  (evaluate index model query.2).map (lines query.1)

/-- What is written for some queries, and the error that ends the run, if one does. -/
def blocks (index : Index) (model : RetrievalModel α) (queries : List (String × String)) :
    List String × Option QueryError :=
  Step.collect (fun query => Step.ofExcept "" (block index model query)) queries

/-- Runs the queries of a file. -/
def run (index : Index) (p : RunParameters α) : Action Unit := do
  let queries ← Action.input (Input.queries · p.queries)
  Action.create p.output
  let (written, stop?) := blocks index p.model.firstPass queries
  Action.write p.output (String.join written)
  Action.stop stop?
  Action.close p.output (String.join written)

end RankedRetrieval.Retrieval
