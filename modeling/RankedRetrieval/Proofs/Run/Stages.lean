import RankedRetrieval.Proofs.Run.Agreement
import RankedRetrieval.Proofs.Run.FirstPass

/-!
# The stages of a run that learns

What each of the three stages of a run does to the files, when the programs that it runs succeed.

## Main Definitions

* `LearningRun.Succeeds` — a program that succeeds and overwrites nothing else
* `LearningRun.Places` — where the files of a run are
* `LearningRun.Given` — what a run reads from the files that are there
* `LearningRun.trainingText`, `LearningRun.rankingText` — what is written

## Main Results

* `LearningRun.train_ok` — the learner is run on the feature lines to learn from
* `LearningRun.test_ok`, `LearningRun.test_stopped` — the results of the first pass and their
  features are written, unless a query ends the run
* `LearningRun.rerank_ok` — the rankings that the predicted scores give are written

## Design Notes

**Programs are met where they are run.**  Nothing is assumed of what they do to other stores than
the one that the run hands to them.
-/

namespace RankedRetrieval.LearningRun

/-! ### Programs and files -/

/-- A program that succeeds in a store and writes one file of its own. -/
structure Succeeds (host : Host) (program : String) (arguments : List String) (own : Location)
    (s t : FileStore) : Prop where
  /-- It ends with success and leaves another store. -/
  exited : host program arguments s = (.exited 0, t)
  /-- It has overwritten nothing else. -/
  others : s.AgreesOutside [own] t

theorem Succeeds.program_ok {host : Host} {program : String} {arguments : List String}
    {own : Location} {s t : FileStore} (succeeds : Succeeds host program arguments own s t) :
    Action.program host program arguments s = (.ok (), t) := by
  rw [Action.program, succeeds.exited]
  rfl

/-- Where the files of a run are. -/
structure Places where
  /-- The queries. -/
  queries : Location
  /-- The results. -/
  output : Location
  /-- The queries to learn from. -/
  trainingQueries : Location
  /-- The features to learn from. -/
  trainingFeatures : Location
  /-- What the learner writes. -/
  modelFile : Location
  /-- The features of the results. -/
  testingFeatures : Location
  /-- What the classifier writes. -/
  predictions : Location

/-- The files that a run and its programs write. -/
def Places.written (places : Places) : List Location :=
  [places.output, places.trainingFeatures, places.modelFile, places.testingFeatures,
    places.predictions]

/-- The paths of a run lead to its files.  No file that is written is one of the others, and what
is written can be kept. -/
structure Places.Lead (places : Places) (p : RunParameters Number) (l : LearningRun Number)
    (s : FileStore) : Prop where
  /-- The path of the queries. -/
  queries : s.target p.queries = .ok places.queries
  /-- The path of the results. -/
  output : s.target p.output = .ok places.output
  /-- The path of the queries to learn from. -/
  trainingQueries : s.target l.trainingQueries = .ok places.trainingQueries
  /-- The path of the features to learn from. -/
  trainingFeatures : s.target l.trainingFeatures = .ok places.trainingFeatures
  /-- The path of what the learner writes. -/
  modelFile : s.target l.modelFile = .ok places.modelFile
  /-- The path of the features of the results. -/
  testingFeatures : s.target l.testingFeatures = .ok places.testingFeatures
  /-- The path of what the classifier writes. -/
  predictions : s.target l.predictions = .ok places.predictions
  /-- The files that are written are different ones. -/
  distinct : places.written.Nodup
  /-- The queries are no file that is written. -/
  queries_kept : places.queries ∉ places.written
  /-- The queries to learn from are no file that is written. -/
  trainingQueries_kept : places.trainingQueries ∉ places.written
  /-- There is room for the features to learn from. -/
  room : s.isFull l.trainingFeatures = false
  /-- The results are kept. -/
  output_kept : places.output.isDevice = false
  /-- The features of the results are kept. -/
  testingFeatures_kept : places.testingFeatures.isDevice = false

/-- What a run reads from the files that are there. -/
structure Given (p : RunParameters Number) (l : LearningRun Number) (s : FileStore)
    (pageRanks : Table String Number) (judgments : Table String (List Judgment))
    (trainingQueries queries : List (String × String)) : Prop where
  /-- The page ranks. -/
  pageRanks : l.readPageRanks s = (.ok pageRanks, s)
  /-- The judgments. -/
  judgments : Input.judgments s l.trainingJudgments = .ok judgments
  /-- The queries to learn from. -/
  trainingQueries : Input.queries s l.trainingQueries = .ok trainingQueries
  /-- The queries. -/
  queries : Input.queries s p.queries = .ok queries

variable {host : Host} {p : RunParameters Number} {l : LearningRun Number}
  {places : Places} {s t : FileStore} {pageRanks : Table String Number}
  {judgments : Table String (List Judgment)} {trainingQueries queries : List (String × String)}
  {x : FeatureExtractor Number} {model : RetrievalModel Number}

theorem Places.Lead.output_ne_testingFeatures (lead : places.Lead p l s) :
    places.output ≠ places.testingFeatures := by
  have distinct := lead.distinct
  simp only [Places.written, List.nodup_cons, List.mem_cons] at distinct
  tauto

theorem Places.Lead.testingFeatures_ne_predictions (lead : places.Lead p l s) :
    places.testingFeatures ≠ places.predictions := by
  have distinct := lead.distinct
  simp only [Places.written, List.nodup_cons, List.mem_cons] at distinct
  tauto

/-! ### Training -/

/-- The feature lines to learn from. -/
def trainingText (x : FeatureExtractor Number) (model : RetrievalModel Number)
    (pageRanks : Table String Number) (judgments : Table String (List Judgment))
    (queries : List (String × String)) : String :=
  String.join (Step.collect (trainingStep x model pageRanks judgments) queries).1

/-- What the learner is told. -/
def learnerArguments (l : LearningRun Number) : List String :=
  ["-c", Numeral.text l.cost, l.trainingFeatures, l.modelFile]

/-- No query ends the training: the errors of parsing are confined to their queries. -/
theorem stop_trainingStep (queries : List (String × String)) :
    (Step.collect (trainingStep x model pageRanks judgments) queries).2 = none := by
  show (Step.collect (fun query => Step.ofExcept "" _) queries).2 = none
  rw [Step.stop_collect_ofExcept, List.findSome?_eq_none_iff]
  intro query _
  rw [Except.failure?_map, Retrieval.parse]
  cases parsed : Query.parse (α := Number) model.defaultOperator query.2 with
  | error e =>
    rw [Retrieval.skipLocal, Query.isQueryLocal_of_parse parsed, if_pos rfl, Except.failure?_ok]
  | ok q => rfl

/-- The learner is run on the feature lines to learn from. -/
theorem train_ok (lead : places.Lead p l s)
    (given : Given p l s pageRanks judgments trainingQueries queries)
    (learned : Succeeds host l.learner l.learnerArguments places.modelFile
      (s.rewrite l.trainingFeatures (trainingText x model pageRanks judgments trainingQueries)
        places.trainingFeatures) t) :
    l.train host x model pageRanks s = (.ok (), t) := by
  have created := FileStore.agreesOutside_update s places.trainingFeatures fun _ => []
  have reread : Input.queries (s.update places.trainingFeatures fun _ => []) l.trainingQueries =
      .ok trainingQueries := by
    rw [← given.trainingQueries]
    exact Input.ofBytes_eq (created.mono (by simp [Places.written])) lead.trainingQueries
      lead.trainingQueries_kept _
  have reached := lead.trainingFeatures
  have room : (s.rewrite l.trainingFeatures
      (trainingText x model pageRanks judgments trainingQueries)
      places.trainingFeatures).isFull l.trainingFeatures = false := by
    have full := lead.room
    rw [FileStore.isFull, reached] at full
    rw [FileStore.isFull, FileStore.target_rewrite reached reached]
    exact full
  have closed : Action.close l.trainingFeatures _ (s.rewrite l.trainingFeatures
      (trainingText x model pageRanks judgments trainingQueries) places.trainingFeatures) = _ :=
    Action.close_of_room room (trainingText x model pageRanks judgments trainingQueries)
  rw [train, Action.bind_ok (Action.input_ok given.judgments),
    Action.bind_ok (Action.create_ok reached), Action.bind_ok (Action.input_ok reread)]
  dsimp only
  rw [Action.bind_ok (Action.write_ok _ _ _), stop_trainingStep,
    Action.bind_ok (Action.stop_none _)]
  exact (Action.bind_ok closed).trans learned.program_ok

/-! ### Testing -/

/-- The lines of results: the columns of the documents of every query, with ranks that count from
one. -/
def rankingText (results : List (String × ScoreList Number)) : String :=
  String.join (results.map fun r => String.join
    ((r.2.entries.zipIdx 1).map fun ranked => RankingFile.body r.1 ranked.2 ranked.1 ++ "\n"))

theorem join_texts (results : List (String × ScoreList Number)) :
    String.join (results.map fun r => RankingFile.text r.1 r.2) = rankingText results := by
  simp only [RankingFile.text_eq_bodies, rankingText]

section Testing

variable {index : Index} {a b : Location} (output : t.target p.output = .ok a)
  (features : t.target l.testingFeatures = .ok b) (different : a ≠ b)
  (given : Input.queries ((t.update a fun _ => []).update b fun _ => []) p.queries = .ok queries)

include output features different given

/-- Both files are written before a query ends the run, if one does. -/
theorem test_eq :
    let written := Step.collect (testingStep index x p.model.firstPass pageRanks) queries
    let pieces := written.1.flatMap Entry.pieces
    l.test index x p pageRanks t =
      (do
        Action.stop written.2
        Action.close p.output (Writer.textOf .first pieces)
        Action.close l.testingFeatures (Writer.textOf .second pieces) : Action Unit)
      (t.rewriteBoth p.output l.testingFeatures (Writer.textOf .first pieces)
        (Writer.textOf .second pieces) a b) := by
  intro written pieces
  have created := FileStore.agreesOutside_update t a fun _ => []
  have both_created := created.trans (FileStore.agreesOutside_update _ b fun _ => [])
  rw [test, Action.bind_ok (Action.create_ok output),
    Action.bind_ok (Action.create_ok (created.target_eq features)),
    Action.bind_ok (Action.input_ok given)]
  exact Action.bind_ok (Action.writeBoth_ok (both_created.target_eq output)
    (both_created.target_eq features) different pieces _)

/-- The first query that ends the run ends the first pass. -/
theorem test_stopped {e : QueryError}
    (stopped : queries.findSome? (Retrieval.fatal? index p.model.firstPass) = some e) :
    (l.test index x p pageRanks t).1 = .error (.query e) := by
  rw [test_eq output features different given, stop_collect, stopped]
  rfl

/-- If no query ends the run, both files hold what the first pass has found. -/
theorem test_ok (output_kept : a.isDevice = false) (features_kept : b.isDevice = false)
    (runs_on : queries.findSome? (Retrieval.fatal? index p.model.firstPass) = none) :
    l.test index x p pageRanks t =
      (.ok (), t.rewriteBoth p.output l.testingFeatures
        (rankingText (firstPass index p.model.firstPass queries))
        (lines x (testingRows index p.model.firstPass x pageRanks queries)) a b) := by
  have agrees := FileStore.agreesOutside_rewriteBoth output features
    (rankingText (firstPass index p.model.firstPass queries))
    (lines x (testingRows index p.model.firstPass x pageRanks queries))
  rw [test_eq output features different given, collect_of_ok index p.model.firstPass x pageRanks
    runs_on, textOf_first, textOf_second, join_texts, Action.bind_ok (Action.stop_none _),
    Action.bind_ok (Action.close_ok (agrees.target_eq output) output_kept _)]
  exact Action.close_ok (agrees.target_eq features) features_kept _

end Testing

/-! ### Ranking -/

/-- What the classifier is told. -/
def classifierArguments (l : LearningRun Number) : List String :=
  [l.testingFeatures, l.modelFile, l.predictions]

/-- The rankings that the predicted scores give replace what the first pass has written. -/
theorem rerank_ok {index : Index} {u v : FileStore} {own a : Location}
    (scored : Succeeds host l.classifier l.classifierArguments own u v)
    (output : v.target p.output = .ok a) (kept : a.isDevice = false)
    {ids : List (String × String)} (read : Input.featureIds v l.testingFeatures = .ok ids)
    {scores : List Number} (predicted : Input.predictions v l.predictions = .ok scores)
    {finals : List (String × ScoreList Number)}
    (ranked : Reranking.rankings? index ids scores = some finals) :
    l.rerank host index p u = (.ok (), v.rewrite p.output (rankingText finals) a) := by
  have reranked : Input.reranked index ids scores = .ok finals := by
    rw [Input.reranked, ranked]
  have reached := (FileStore.agreesOutside_rewrite output (rankingText finals)).target_eq output
  have classified : Action.program host l.classifier
      [l.testingFeatures, l.modelFile, l.predictions] u = (.ok (), v) := scored.program_ok
  rw [rerank, Action.bind_ok classified, Action.bind_ok (Action.input_ok read),
    Action.bind_ok (Action.input_ok predicted), Action.bind_ok (Action.input_ok reranked),
    Action.bind_ok (Action.create_ok output), join_texts,
    Action.bind_ok (Action.write_ok _ _ _)]
  exact Action.close_ok reached kept _

end RankedRetrieval.LearningRun
