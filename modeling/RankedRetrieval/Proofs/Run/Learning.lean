import RankedRetrieval.Proofs.Run.Stages
import RankedRetrieval.Proofs.Script.Rankers

/-!
# Runs that learn to rank

A run that learns ranks exactly what its first pass returned, every document by the score of its
own feature line.

## Main Definitions

* `LearningRun.prepare` — what a run does before scores are predicted
* `LearningRun.Prepared`, `LearningRun.RanksAnew` — what a run leaves behind then and in the end

## Main Results

* `LearningRun.prepare_ok` — the files before scores are predicted
* `LearningRun.run_ranks_anew` — what the whole run does

## Design Notes

**Everything is followed through the files.**  The stores of two stages differ in files that the
next stage does not read, and so what has been written by one stage is read by the next one.
-/

namespace RankedRetrieval.LearningRun

variable {host : Host} {p : RunParameters Number} {l : LearningRun Number}
  {places : Places} {s t : FileStore} {pageRanks : Table String Number}
  {judgments : Table String (List Judgment)} {trainingQueries queries : List (String × String)}
  {x : FeatureExtractor Number}

/-! ### Whole runs -/

/-- What a run does before scores are predicted. -/
def prepare (host : Host) (index : Index) (p : RunParameters Number) (l : LearningRun Number) :
    Action Unit := do
  let x := FeatureExtractor.ofModel index p.model l.disabled
  let pageRanks ← l.readPageRanks
  l.train host x p.model.firstPass pageRanks
  l.test index x p pageRanks

theorem run_eq (host : Host) (index : Index) (p : RunParameters Number)
    (l : LearningRun Number) :
    l.run host index p = (do
      l.prepare host index p
      l.rerank host index p) := by
  simp only [run, prepare, bind_assoc]

/-- What a run leaves behind before scores are predicted: the ranking of the first pass, and one
feature line for each of its documents, in the same order. -/
structure Prepared (places : Places) (s u : FileStore) (x : FeatureExtractor Number)
    (rows : List (FeatureRow Number)) (firsts : List (String × ScoreList Number)) : Prop where
  /-- The ranking of the first pass. -/
  output : u.fileAt? places.output = some (Text.encode (rankingText firsts))
  /-- The feature lines. -/
  features : u.fileAt? places.testingFeatures = some (Text.encode (lines x rows))
  /-- They are as many as the feature rows. -/
  lines_eq : Text.lines (lines x rows) = rows.map (FeatureRow.body x.disabled)
  /-- The feature rows are those of the documents of the ranking. -/
  ids : rows.map rowId = Reranking.ids firsts
  /-- Nothing else has been overwritten. -/
  others : s.AgreesOutside places.written u

/-- What a run leaves behind in the end: the ranking of the first pass, ranked anew by the scores
of its feature lines. -/
structure RanksAnew (places : Places) (s w : FileStore)
    (firsts : List (String × ScoreList Number)) (scores : List Number)
    (finals : List (String × ScoreList Number)) : Prop where
  /-- The last ranking. -/
  output : w.fileAt? places.output = some (Text.encode (rankingText finals))
  /-- It is the one of the first pass, ranked anew. -/
  reranked : Reranking.Reranked firsts scores finals
  /-- Nothing else has been overwritten. -/
  others : s.AgreesOutside places.written w

section Whole

variable {drafts : List Draft}

/-- Up to the first pass, a run ends with the first query that ends it, or leaves the ranking and
the feature lines behind. -/
theorem prepare_ok (apart : (drafts.map Draft.externalId).Nodup)
    (documents : ∀ draft ∈ drafts, FeatureFile.IsDocument draft.externalId)
    (numbers : ∀ query ∈ queries, FeatureFile.IsQuery query.1)
    (lead : places.Lead p l s)
    (given : Given p l s pageRanks judgments trainingQueries queries)
    (over_drafts : x = FeatureExtractor.ofModel (Index.ofDrafts drafts) p.model l.disabled)
    (learned : Succeeds host l.learner l.learnerArguments places.modelFile
      (s.rewrite l.trainingFeatures
        (trainingText x p.model.firstPass pageRanks judgments trainingQueries)
        places.trainingFeatures) t) :
    (∀ e, queries.findSome? (Retrieval.fatal? (Index.ofDrafts drafts) p.model.firstPass) =
        some e → (l.prepare host (Index.ofDrafts drafts) p s).1 = .error (.query e)) ∧
    (queries.findSome? (Retrieval.fatal? (Index.ofDrafts drafts) p.model.firstPass) = none →
      ∃ u, l.prepare host (Index.ofDrafts drafts) p s = (.ok (), u) ∧
        (∀ k, u.canRun k = t.canRun k) ∧
        Prepared places s u x
          (testingRows (Index.ofDrafts drafts) p.model.firstPass x pageRanks queries)
          (firstPass (Index.ofDrafts drafts) p.model.firstPass queries)) := by
  subst over_drafts
  have trained := train_ok lead given learned
  have learning := (FileStore.agreesOutside_rewrite lead.trainingFeatures _).trans learned.others
  have output := learning.target_eq lead.output
  have features := learning.target_eq lead.testingFeatures
  have different := lead.output_ne_testingFeatures
  -- the queries are read only after the two files of the first pass have been created
  have created := learning.trans ((FileStore.agreesOutside_update t places.output fun _ => []).trans
    (FileStore.agreesOutside_update _ places.testingFeatures fun _ => []))
  have reread : Input.queries ((t.update places.output fun _ => []).update places.testingFeatures
      fun _ => []) p.queries = .ok queries := by
    rw [← given.queries]
    exact Input.ofBytes_eq (created.mono (by simp [Places.written])) lead.queries
      lead.queries_kept _
  have begun : l.prepare host (Index.ofDrafts drafts) p s =
      l.test (Index.ofDrafts drafts)
        (FeatureExtractor.ofModel (Index.ofDrafts drafts) p.model l.disabled) p pageRanks t := by
    rw [prepare, Action.bind_ok given.pageRanks, Action.bind_ok trained]
  rw [begun]
  refine ⟨fun e stopped => test_stopped output features different reread stopped,
    fun runs_on => ⟨_, test_ok output features different reread lead.output_kept
      lead.testingFeatures_kept runs_on, FileStore.canRun_rewriteBoth _ _ _ _ _ _ _, ?_⟩⟩
  obtain ⟨ranking, rows⟩ := FileStore.fileAt?_rewriteBoth output features _ _ different
    lead.output_kept lead.testingFeatures_kept
  exact {
    output := ranking
    features := rows
    lines_eq := FeatureFile.lines_join (plain_testingRows apart rfl pageRanks _ documents numbers)
    ids := ids_testingRows apart rfl pageRanks _ queries
    others := (learning.trans (FileStore.agreesOutside_rewriteBoth output features _ _)).mono
      (by simp [Places.written]) }

/-- A run that learns ranks exactly what its first pass has returned.  A query that cannot be
skipped ends it; otherwise it writes the ranking of the first pass and one feature line for each
of its documents, which makes no program of a file, and once every line has a score, the same
queries with the same documents, each with the score of its own line, in order and numbered from
one on. -/
theorem run_ranks_anew (drafts : List Draft) (host : Host) (p : RunParameters Number)
    (l : LearningRun Number) (apart : (drafts.map Draft.externalId).Nodup)
    (documents : ∀ draft ∈ drafts, FeatureFile.IsDocument draft.externalId)
    (queries_apart : (queries.map Prod.fst).Nodup)
    (numbers : ∀ query ∈ queries, FeatureFile.IsQuery query.1)
    (lead : places.Lead p l s)
    (given : Given p l s pageRanks judgments trainingQueries queries)
    (over_drafts : x = FeatureExtractor.ofModel (Index.ofDrafts drafts) p.model l.disabled)
    (learned : Succeeds host l.learner l.learnerArguments places.modelFile
      (s.rewrite l.trainingFeatures
        (trainingText x p.model.firstPass pageRanks judgments trainingQueries)
        places.trainingFeatures) t) :
    (∀ e, queries.findSome? (Retrieval.fatal? (Index.ofDrafts drafts) p.model.firstPass) =
        some e → (l.run host (Index.ofDrafts drafts) p s).1 = .error (.query e)) ∧
    (queries.findSome? (Retrieval.fatal? (Index.ofDrafts drafts) p.model.firstPass) = none →
      ∃ u rows firsts, firsts = firstPass (Index.ofDrafts drafts) p.model.firstPass queries ∧
        rows = testingRows (Index.ofDrafts drafts) p.model.firstPass x pageRanks queries ∧
        l.prepare host (Index.ofDrafts drafts) p s = (.ok (), u) ∧
        (∀ k, u.canRun k = t.canRun k) ∧ Prepared places s u x rows firsts ∧
        ∀ {v : FileStore} {scores : List Number},
          Succeeds host l.classifier l.classifierArguments places.predictions u v →
          Input.predictions v l.predictions = .ok scores →
          scores.length = (Text.lines (lines x rows)).length →
          ∃ w finals, l.run host (Index.ofDrafts drafts) p s = (.ok (), w) ∧
            RanksAnew places s w firsts scores finals) := by
  obtain ⟨stops, prepares⟩ :=
    prepare_ok apart documents numbers lead given over_drafts learned
  rw [run_eq]
  refine ⟨fun e stopped => ?_, fun runs_on => ?_⟩
  · have failed := stops e stopped
    cases ended : l.prepare host (Index.ofDrafts drafts) p s with
    | mk outcome u =>
      rw [ended] at failed
      rw [Action.bind_error (ended.trans (Prod.ext failed rfl))]
  obtain ⟨u, prepared, programs, before⟩ := prepares runs_on
  refine ⟨u, _, _, rfl, rfl, prepared, programs, before,
    fun {v scores} scored predicted one_each => ?_⟩
  -- the classifier has left the feature lines as they were written
  have classified := before.others.trans scored.others
  have features : v.fileAt? places.testingFeatures = some (Text.encode (lines x
      (testingRows (Index.ofDrafts drafts) p.model.firstPass x pageRanks queries))) := by
    rw [scored.others.files _ (by simpa using lead.testingFeatures_ne_predictions)]
    exact before.features
  have read : Input.featureIds v l.testingFeatures = .ok (Reranking.ids
      (firstPass (Index.ofDrafts drafts) p.model.firstPass queries)) := by
    rw [← before.ids]
    exact Input.ofText_ok (classified.target_eq lead.testingFeatures) features
      (FeatureFile.readIds_join
        (plain_testingRows apart (by rw [over_drafts]; rfl) pageRanks _ documents numbers))
  have as_many : scores.length = (Reranking.ids
      (firstPass (Index.ofDrafts drafts) p.model.firstPass queries)).length := by
    rw [one_each, before.lines_eq, ← before.ids, List.length_map, List.length_map]
  obtain ⟨finals, ranked, reranked⟩ := Reranking.reranked_of_rankings
    (fun ⟨_, _⟩ member _ listed => internalId?_of_mem_firstPass apart member listed)
    ((firstPass_sublist _ _ _).nodup queries_apart)
    (fun ⟨_, _⟩ member => length_le_of_mem_firstPass member) as_many
  have output := classified.target_eq lead.output
  refine ⟨v.rewrite p.output (rankingText finals) places.output, finals, ?_, ?_⟩
  · rw [Action.bind_ok prepared]
    exact rerank_ok scored output lead.output_kept read predicted ranked
  · exact {
      output := by rw [FileStore.fileAt?_rewrite output lead.output_kept, if_pos rfl]
      reranked
      others := (classified.trans (FileStore.agreesOutside_rewrite output _)).mono
        (by simp [Places.written]) }

end Whole

/-! ### A small run -/

/-- Parameters of a run that learns. -/
def sampleParameters : RunParameters Number where
  index := "index"
  queries := "queries.txt"
  output := "out.txt"
  model := .letor Bm25.default Indri.default
  feedback := none
  learning := none

/-- Parameters of its learning. -/
def sampleLearning : LearningRun Number where
  trainingQueries := "train.txt"
  trainingJudgments := "qrels.txt"
  trainingFeatures := "train.features"
  pageRanks := none
  disabled := [1, 4]
  learner := "./learn"
  classifier := "./classify"
  cost := Scalar.ofNat 1
  modelFile := "model.txt"
  testingFeatures := "test.features"
  predictions := "scores.txt"

/-- Where the files of the sample run are. -/
def samplePlaces : Places where
  queries := ["queries.txt"]
  output := ["out.txt"]
  trainingQueries := ["train.txt"]
  trainingFeatures := ["train.features"]
  modelFile := ["model.txt"]
  testingFeatures := ["test.features"]
  predictions := ["scores.txt"]

/-- Two predicted scores. -/
def sampleScores : String := "1\n2.5\n"

/-- A store with what it reads, with the scripts of the learner and of the classifier, and with
the scores that the classifier hands on. -/
def sampleStore : FileStore :=
  ⟨[], Table.ofList [(["queries.txt"], Text.encode "1: dog\n2: dog.author\n"),
    (["train.txt"], Text.encode "7: cat\n"), (["qrels.txt"], Text.encode "7 0 b 1\n"),
    (["prepared.txt"], Text.encode sampleScores),
    (["learn"], Text.encode (Script.scriptText Script.learnSource)),
    (["classify"], Text.encode (Script.scriptText Script.classifySource))],
    [["learn"], ["classify"]]⟩

/-- The queries of that store. -/
def sampleQueries : List (String × String) := [("1", "dog"), ("2", "dog.author")]

/-- Two documents, both of which the first query finds. -/
def sampleDrafts : List Draft :=
  [⟨"a", [.setField "body" "dog"]⟩, ⟨"b", [.setField "body" "dog cat"]⟩]

theorem lead_samplePlaces : samplePlaces.Lead sampleParameters sampleLearning sampleStore where
  queries := rfl
  output := rfl
  trainingQueries := rfl
  trainingFeatures := rfl
  modelFile := rfl
  testingFeatures := rfl
  predictions := rfl
  distinct := by decide
  queries_kept := by decide
  trainingQueries_kept := by decide
  room := rfl
  output_kept := by decide
  testingFeatures_kept := by decide

theorem given_sampleStore : Given sampleParameters sampleLearning sampleStore ∅
    ⟨[("7", [⟨"b", 1⟩])]⟩ [("7", "cat")] sampleQueries where
  pageRanks := rfl
  judgments := rfl
  trainingQueries := rfl
  queries := rfl

theorem length_ids_sample :
    (Reranking.ids (firstPass (Index.ofDrafts sampleDrafts) sampleParameters.model.firstPass
      sampleQueries)).length = 2 := by
  let model : RetrievalModel Number := sampleParameters.model.firstPass
  have answered : ((Query.parse model.defaultOperator "dog").bind fun q =>
      q.execute (Index.ofDrafts sampleDrafts) model).toOption.map ScoreList.length = some 2 := by
    decide +kernel
  have rejected : (Query.parse (α := Number) model.defaultOperator "dog.author").failure? =
      some (.unknownField "dog.author") := by
    decide +kernel
  cases parsed : Query.parse (α := Number) model.defaultOperator "dog" with
  | error e => simp [parsed, Except.bind, Except.toOption] at answered
  | ok q =>
    cases executed : q.execute (Index.ofDrafts sampleDrafts) model with
    | error e => simp [parsed, executed, Except.bind, Except.toOption] at answered
    | ok list =>
      have two : list.entries.length = 2 := by
        rw [parsed, Except.bind, executed] at answered
        exact Option.some.inj answered
      rw [sampleQueries, firstPass_of_execute parsed executed,
        firstPass_of_rejected (Except.failure?_eq_some_iff.1 rejected), Reranking.ids_cons,
        List.length_append, List.length_map, (ScoreList.reported_rank list).length_eq, two]
      rfl

theorem exists_sampleScores : ∃ scores : List Number,
    PredictionFile.read sampleScores = .ok scores ∧ scores.length = 2 := by
  have read : (PredictionFile.read (α := Number) sampleScores).toOption.map List.length =
      some 2 := by
    decide +kernel
  cases outcome : PredictionFile.read (α := Number) sampleScores with
  | error e => simp [outcome, Except.toOption] at read
  | ok scores => exact ⟨scores, rfl, by simpa [outcome, Except.toOption] using read⟩

theorem installed_learn :
    Script.Installed sampleStore "./learn" Script.learnSource ["learn"] where
  distant := by decide
  named := by decide
  reached := rfl
  runs := rfl
  held := rfl
  shell := rfl

theorem installed_classify :
    Script.Installed sampleStore "./classify" Script.classifySource ["classify"] where
  distant := by decide
  named := by decide
  reached := rfl
  runs := rfl
  held := rfl
  shell := rfl

/-- The text of a number can be handed to a program. -/
theorem holdsNull_text (x : Number) : holdsNull (Numeral.text x) = false := by
  have chars := (Decimal.numberText_shortest x.value).numeralChar
  rw [holdsNull, List.contains_eq_mem, decide_eq_false_iff_not]
  exact fun member => absurd (chars _ member) (by decide)

/-- The learner keeps the features, whatever they are. -/
theorem exists_learned (text : String) :
    ∃ t, Succeeds Script.host "./learn" sampleLearning.learnerArguments ["model.txt"]
        (sampleStore.rewrite "train.features" text ["train.features"]) t ∧
      t.canRun ["classify"] = true := by
  have features : sampleStore.target "train.features" = .ok ["train.features"] := rfl
  have model : sampleStore.target "model.txt" = .ok ["model.txt"] := rfl
  have agrees := FileStore.agreesOutside_rewrite features text
  have runs (k : Location) : (sampleStore.rewrite "train.features" text ["train.features"]).canRun
      k = sampleStore.canRun k := FileStore.canRun_rewrite _ _ _ _ _
  have installed := installed_learn.mono agrees ((runs _).trans installed_learn.runs)
    (by decide) (by decide)
  have written : (sampleStore.rewrite "train.features" text ["train.features"]).fileAt?
      ["train.features"] = some (Text.encode text) := by
    rw [FileStore.fileAt?_rewrite features (by decide), if_pos rfl]
  have read := FileStore.read_of_target (agrees.target_eq features) written
  have apart := FileStore.sameFile_eq_false (agrees.target_eq features) (agrees.target_eq model)
    (by decide)
  have usable : ["./learn", "-c", Numeral.text sampleLearning.cost, "train.features",
      "model.txt"].any holdsNull = false := by
    simp only [List.any_cons, holdsNull_text]
    decide
  obtain ⟨t, exited, copied⟩ := Script.host_learn installed read (agrees.target_eq model) apart
    usable (by decide) (by decide)
  exact ⟨t, ⟨exited, copied.others⟩, copied.programs _ ((runs _).trans installed_classify.runs)⟩

/-- The classifier hands on the scores. -/
theorem exists_scored {u : FileStore} (runs : u.canRun ["classify"] = true)
    (others : sampleStore.AgreesOutside samplePlaces.written u) :
    ∃ v, Succeeds Script.host "./classify" sampleLearning.classifierArguments ["scores.txt"] u v ∧
      v.fileAt? ["scores.txt"] = some (Text.encode sampleScores) := by
  have prepared : sampleStore.target "prepared.txt" = .ok ["prepared.txt"] := rfl
  have scores : sampleStore.target "scores.txt" = .ok ["scores.txt"] := rfl
  have installed := installed_classify.mono others runs (by decide) (by decide)
  have read := FileStore.read_of_target (others.target_eq prepared)
    (others.files ["prepared.txt"] (by decide))
  have apart := FileStore.sameFile_eq_false (others.target_eq prepared) (others.target_eq scores)
    (by decide)
  have usable : ["./classify", "test.features", "model.txt", "scores.txt"].any holdsNull = false :=
    by decide
  obtain ⟨v, exited, copied⟩ := Script.host_classify installed read (others.target_eq scores) apart
    usable (by decide)
  exact ⟨v, ⟨exited, copied.others⟩, copied.holds (by decide)⟩

/-- A run over two documents, with a query that finds both and one that is rejected.  The learner
and the classifier are scripts. -/
theorem run_ranks_anew_sample :
    ∃ w firsts scores finals,
      firsts = firstPass (Index.ofDrafts sampleDrafts) sampleParameters.model.firstPass
        sampleQueries ∧
      (Reranking.ids firsts).length = 2 ∧
      sampleLearning.run Script.host (Index.ofDrafts sampleDrafts) sampleParameters sampleStore =
        (.ok (), w) ∧
      RanksAnew samplePlaces sampleStore w firsts scores finals := by
  have documents : ∀ draft ∈ sampleDrafts, FeatureFile.IsDocument draft.externalId := by
    simp only [sampleDrafts, List.forall_mem_cons]
    exact ⟨⟨by decide, by decide, by decide⟩, ⟨by decide, by decide, by decide⟩, by simp⟩
  have numbers : ∀ query ∈ sampleQueries, FeatureFile.IsQuery query.1 := by
    simp only [sampleQueries, List.forall_mem_cons]
    exact ⟨⟨by decide, by decide, by decide⟩, ⟨by decide, by decide, by decide⟩, by simp⟩
  have runs_on : sampleQueries.findSome? (Retrieval.fatal? (Index.ofDrafts sampleDrafts)
      sampleParameters.model.firstPass) = none := by
    decide +kernel
  obtain ⟨t, learned, classifies⟩ := exists_learned (trainingText
    (FeatureExtractor.ofModel (Index.ofDrafts sampleDrafts) sampleParameters.model
      sampleLearning.disabled)
    sampleParameters.model.firstPass ∅ ⟨[("7", [⟨"b", 1⟩])]⟩ [("7", "cat")])
  obtain ⟨-, runs⟩ := run_ranks_anew sampleDrafts Script.host sampleParameters sampleLearning
    (by decide) documents (by decide) numbers lead_samplePlaces given_sampleStore rfl learned
  obtain ⟨u, rows, firsts, all_firsts, -, -, programs, before, finishes⟩ := runs runs_on
  have two : (Reranking.ids firsts).length = 2 := by rw [all_firsts, length_ids_sample]
  obtain ⟨scores, predicted, two_scores⟩ := exists_sampleScores
  obtain ⟨v, scored, written⟩ := exists_scored ((programs _).trans classifies) before.others
  have reached := (before.others.trans scored.others).target_eq lead_samplePlaces.predictions
  obtain ⟨w, finals, ran, ranked⟩ := finishes scored (Input.ofText_ok reached written predicted)
    (by rw [before.lines_eq, List.length_map, ← List.length_map rowId, before.ids, two,
      two_scores])
  exact ⟨w, firsts, scores, finals, all_firsts, two, ran, ranked⟩

end RankedRetrieval.LearningRun
