import RankedRetrieval.Run.Feedback
import RankedRetrieval.Run.Learning

/-!
# Batch runs

## Main Definitions

* `RunParameters.run` — the run that parameters ask for
* `RunParameters.paths` — the files that it may read or write
* `Batch.run` — the run that a parameter file asks for

## Design Notes

Learning to rank takes precedence over feedback.
-/

namespace RankedRetrieval

variable {α : Type} [Scalar α] [Numeral α]

/-- The run that parameters ask for, over an index. -/
def RunParameters.runOn (host : Host) (index : Index) (p : RunParameters α) : Action Unit :=
  match p.learning, p.feedback with
  | some l, _ => l.run host index p
  | none, some f => f.run index p
  | none, none => Retrieval.run index p

/-- The run that parameters ask for. -/
def RunParameters.run (host : Host) (p : RunParameters α) : Action Unit := do
  let index ← Action.input fun s => (Snapshot.load s p.index).mapError .snapshot
  p.runOn host index

/-- The files that a run with learning may read or write, its programs included. -/
def LearningRun.paths (l : LearningRun α) : List String :=
  [l.trainingQueries, l.trainingJudgments, l.trainingFeatures, l.learner, l.classifier,
    l.modelFile, l.testingFeatures, l.predictions] ++ l.pageRanks.toList

/-- The files that a run with feedback may read or write. -/
def FeedbackRun.paths (f : FeedbackRun α) : List String :=
  f.expansions :: f.initialRanking.toList

/-- The files that a run may read or write, those of its index included. -/
def RunParameters.paths (p : RunParameters α) : List String :=
  [Snapshot.metadataPath p.index, Snapshot.documentsPath p.index, Snapshot.fieldsPath p.index,
    p.queries, p.output]
    ++ ((p.feedback.map FeedbackRun.paths).getD [])
    ++ ((p.learning.map LearningRun.paths).getD [])

namespace Batch

/-- The run that a parameter file asks for. -/
def run (host : Host) (path : String) : Action Unit := do
  let p : RunParameters Number ← Action.input (Input.parameters · path)
  p.run host

end Batch

end RankedRetrieval
