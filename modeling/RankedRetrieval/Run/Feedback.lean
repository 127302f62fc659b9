import RankedRetrieval.Run.Retrieval

/-!
# Retrieval with feedback

Every query is expanded by the terms of its best documents and run again.

## Main Definitions

* `FeedbackRun.step` — what is written for a query
* `FeedbackRun.runOn` — a run over queries that have been read
* `FeedbackRun.run` — a run over a file of queries

## Design Notes

The best documents are those of a given ranking, or else those of a first run of the query.
A query that is skipped in its first run writes no expansion either.
-/

namespace RankedRetrieval.FeedbackRun

variable {α : Type} [Scalar α] [Numeral α]

/-- What is written for a query, in pieces: its expansion and its results. -/
structure Entry where
  /-- The pieces of the line of the expansion. -/
  expansion : List String
  /-- The pieces of the lines of the results. -/
  results : List String

/-- Nothing. -/
def Entry.empty : Entry := ⟨[], []⟩

/-- The pieces of an entry in the order in which they are written.  The first of the two writers
is that of the results. -/
def Entry.pieces (entry : Entry) : List (Writer.Side × String) :=
  entry.expansion.map (Prod.mk .second) ++ entry.results.map (Prod.mk .first)

/-- The best documents of a query in a given ranking.  Documents that are not in the index are
left out after the best ones have been taken. -/
def given (index : Index) (ranking : Table String (List (String × α))) (docs : Nat)
    (qid : String) : List (DocId × α) :=
  (((ranking.get? qid).getD []).take docs).filterMap fun entry =>
    (index.internalId? entry.1).map fun doc => (doc, entry.2)

/-- The best documents of a query; nothing for one that is skipped. -/
def best (index : Index) (model : RetrievalModel α)
    (ranking? : Option (Table String (List (String × α)))) (docs : Nat)
    (query : String × String) : Except QueryError (Option (List (DocId × α))) :=
  match ranking? with
  | some ranking => .ok (some (given index ranking docs query.1))
  | none =>
    (Retrieval.evaluate index model query.2).map fun list? => list?.map fun l => l.top docs

/-- What is written for a query whose best documents are known. -/
def expandedStep (index : Index) (model : RetrievalModel α) (p : FeedbackParameters α)
    (query : String × String) (top : List (DocId × α)) : Step Entry :=
  let expansion := Expansion.expand index top p model
  let line := [query.1, ": ", expansion, "\n"]
  match Retrieval.evaluate index model (Expansion.combine p model query.2 expansion) with
  | .error e => ⟨⟨line, []⟩, some e⟩
  | .ok list? => ⟨⟨line, Retrieval.pieces query.1 list?⟩, none⟩

/-- What is written for a query. -/
def step (index : Index) (model : RetrievalModel α) (p : FeedbackParameters α)
    (ranking? : Option (Table String (List (String × α)))) (query : String × String) :
    Step Entry :=
  match best index model ranking? p.docs query with
  | .error e => ⟨Entry.empty, some e⟩
  | .ok none => ⟨Entry.empty, none⟩
  | .ok (some top) => expandedStep index model p query top

/-- What is written for some queries, and the error that ends the run, if one does. -/
def entries (index : Index) (p : RunParameters α) (f : FeedbackRun α)
    (ranking? : Option (Table String (List (String × α)))) (queries : List (String × String)) :
    List Entry × Option QueryError :=
  Step.collect (step index p.model.firstPass f.parameters ranking?) queries

/-- The ranking to expand from, if one is given. -/
def readRanking (f : FeedbackRun α) : Action (Option (Table String (List (String × α)))) :=
  match f.initialRanking with
  | none => pure none
  | some path => some <$> Action.input (Input.ranking · path)

/-- Expands and runs queries that have been read. -/
def runOn (index : Index) (p : RunParameters α) (f : FeedbackRun α)
    (ranking? : Option (Table String (List (String × α)))) (queries : List (String × String)) :
    Action Unit := do
  Action.create p.output
  Action.create f.expansions
  let (written, stop?) := entries index p f ranking? queries
  let pieces := written.flatMap Entry.pieces
  Action.writeBoth p.output f.expansions pieces .first
  Action.stop stop?
  Action.close f.expansions (Writer.textOf .second pieces)
  Action.close p.output (Writer.textOf .first pieces)

/-- Expands and runs the queries of a file. -/
def run (index : Index) (p : RunParameters α) (f : FeedbackRun α) : Action Unit := do
  let queries ← Action.input (Input.queries · p.queries)
  let ranking? ← f.readRanking
  runOn index p f ranking? queries

end RankedRetrieval.FeedbackRun
