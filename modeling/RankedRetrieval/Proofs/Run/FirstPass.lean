import RankedRetrieval.Proofs.Features.Reranking
import RankedRetrieval.Proofs.Files.FeatureLines
import RankedRetrieval.Proofs.Ranking.Names
import RankedRetrieval.Proofs.Run.Blocks
import RankedRetrieval.Run.Learning

/-!
# The first pass

Before a run ranks by predicted scores it writes its results and their features, one feature line
for each document of each query.

## Main Definitions

* `LearningRun.firstPass` — the results of the first pass, query by query
* `LearningRun.testingRows` — the feature rows of these results

## Main Results

* `LearningRun.textOf_first`, `LearningRun.textOf_second` — what the two files hold
* `LearningRun.ids_testingRows` — the feature rows are those of the documents of the results, in
  their order

## Design Notes

Feature rows leave out documents that are not in the index.  The documents of a result always
are, so there is one row for each of them.
-/

namespace RankedRetrieval

namespace LearningRun

section Generic

variable {α : Type} [Scalar α] [Numeral α]

/-! ### Feature rows -/

/-- The query and the document of a feature row. -/
def rowId (row : FeatureRow α) : String × String := (row.qid, row.externalId)

/-- Documents of the index have one feature row each. -/
theorem ids_featureRows {x : FeatureExtractor α} {docs : List (String × Int)}
    (found : ∀ d ∈ docs, (x.index.internalId? d.1).isSome) (pageRanks : Table String α)
    (qid : String) (terms : QueryTerms) :
    (featureRows x pageRanks qid terms docs).map rowId = docs.map fun d => (qid, d.1) := by
  -- no document is left out, and scaling keeps one row for each of them
  let extracted := docs.filterMap fun d => (x.index.internalId? d.1).map fun doc =>
    (d, x.extract terms doc (pageRanks.get? d.1))
  have all_kept : extracted.map Prod.fst = docs := by
    rw [List.map_filterMap]
    conv => rhs; rw [← List.filterMap_some (l := docs)]
    refine List.filterMap_congr fun d member => ?_
    obtain ⟨doc, at_doc⟩ := Option.isSome_iff_exists.1 (found d member)
    rw [at_doc]
    rfl
  have as_many : (FeatureVector.normalize (extracted.map Prod.snd)).length = docs.length := by
    rw [FeatureVector.normalize, List.length_map, List.length_map, ← List.length_map Prod.fst,
      all_kept]
  show (List.zipWith _ (extracted.map Prod.fst)
    (FeatureVector.normalize (extracted.map Prod.snd))).map rowId = _
  rw [all_kept, List.map_zipWith]
  show List.zipWith (fun d _ => (qid, d.1)) docs _ = _
  rw [← List.map_uncurry_zip_eq_zipWith]
  conv => rhs; rw [← List.map_fst_zip (Nat.le_of_eq as_many.symm), List.map_map]
  rfl

omit [Scalar α] in
theorem lines_append (x : FeatureExtractor α) (rows more : List (FeatureRow α)) :
    lines x (rows ++ more) = lines x rows ++ lines x more := by
  rw [lines, List.map_append, String.join_append, lines, lines]

omit [Scalar α] in
theorem join_pieces (x : FeatureExtractor α) (rows : List (FeatureRow α)) :
    String.join (rows.flatMap (FeatureRow.pieces x.disabled)) = lines x rows := by
  induction rows with
  | nil => rfl
  | cons row rows ih =>
    rw [List.flatMap_cons, String.join_append, ih, FeatureRow.join_pieces, lines, lines,
      List.map_cons, String.join_cons]

/-! ### Results -/

variable (index : Index) (model : RetrievalModel α)

/-- The query of a text with its ranked result; nothing for one that is skipped. -/
def answer (text : String) : Except QueryError (Option (Query α × ScoreList α)) :=
  match Retrieval.parse model text with
  | .error e => .error e
  | .ok none => .ok none
  | .ok (some q) => (Retrieval.results index model q).map fun list? => list?.map (Prod.mk q)

theorem evaluate_eq (text : String) :
    Retrieval.evaluate index model text =
      (answer index model text).map fun answer? => answer?.map Prod.snd := by
  rw [Retrieval.evaluate, answer]
  rcases Retrieval.parse model text with e | _ | q
  · rfl
  · rfl
  · dsimp only
    rcases Retrieval.results index model q with e | _ | list <;> rfl

/-- The queries that end a run are those whose answer does. -/
theorem failure?_answer (query : String × String) :
    (answer index model query.2).failure? = Retrieval.fatal? index model query := by
  rw [Retrieval.fatal?, Retrieval.block, Except.failure?_map, evaluate_eq, Except.failure?_map]

/-- The results of the first pass, query by query; nothing for queries that are skipped. -/
def firstPass (queries : List (String × String)) : List (String × ScoreList α) :=
  queries.filterMap fun query =>
    (Retrieval.evaluate index model query.2).toOption.join.map (Prod.mk query.1)

/-- The query of a text with its ranked result, if there is one. -/
def answer? (text : String) : Option (Query α × ScoreList α) :=
  (answer index model text).toOption.join

theorem firstPass_cons (query : String × String) (queries : List (String × String)) :
    firstPass index model (query :: queries) =
      ((answer? index model query.2).map fun a => (query.1, a.2)).toList ++
        firstPass index model queries := by
  have answered : (Retrieval.evaluate index model query.2).toOption.join.map (Prod.mk query.1) =
      (answer? index model query.2).map fun a => (query.1, a.2) := by
    rw [evaluate_eq, answer?]
    rcases answer index model query.2 with e | _ | a <;> rfl
  rw [firstPass, List.filterMap_cons, answered, firstPass]
  cases answer? index model query.2 <;> rfl

section Queries

variable {index model} {text : String}

/-- A query that is executed has what is reported of its matches. -/
theorem firstPass_of_execute {q : Query α} {list : ScoreList α}
    (parsed : Query.parse model.defaultOperator text = .ok q)
    (executed : q.execute index model = .ok list) (qid : String)
    (queries : List (String × String)) :
    firstPass index model ((qid, text) :: queries) =
      (qid, list.rank) :: firstPass index model queries := by
  have evaluated : Retrieval.evaluate index model text = .ok (some list.rank) := by
    rw [Retrieval.evaluate_of_parsed parsed, Retrieval.results, executed]
    rfl
  rw [firstPass, List.filterMap_cons, evaluated]
  rfl

/-- A text that is not parsed has nothing. -/
theorem firstPass_of_rejected {e : QueryError}
    (rejected : Query.parse (α := α) model.defaultOperator text = .error e) (qid : String)
    (queries : List (String × String)) :
    firstPass index model ((qid, text) :: queries) = firstPass index model queries := by
  rw [firstPass, List.filterMap_cons, Retrieval.evaluate_of_rejected index rejected]
  rfl

end Queries

variable (x : FeatureExtractor α) (pageRanks : Table String α)

/-- The feature rows of the result of a query. -/
def answerRows (query : String × String) (a : Query α × ScoreList α) : List (FeatureRow α) :=
  featureRows x pageRanks query.1 a.1.terms (a.2.entries.map fun e => (e.externalId, 0))

/-- The feature rows of the results of the first pass. -/
def testingRows (queries : List (String × String)) : List (FeatureRow α) :=
  queries.flatMap fun query =>
    ((answer? index model query.2).map (answerRows x pageRanks query)).getD []

theorem testingRows_cons (query : String × String) (queries : List (String × String)) :
    testingRows index model x pageRanks (query :: queries) =
      ((answer? index model query.2).map (answerRows x pageRanks query)).getD [] ++
        testingRows index model x pageRanks queries :=
  List.flatMap_cons

/-! ### What is written -/

/-- What is written for a query. -/
def entryOf (query : String × String) : Entry :=
  ((answer? index model query.2).map fun a => testingEntry x pageRanks query.1 a.1 a.2).getD
    Entry.empty

theorem testingStep_eq (query : String × String) :
    testingStep index x model pageRanks query =
      Step.ofExcept Entry.empty ((answer index model query.2).map fun found? =>
        (found?.map fun a => testingEntry x pageRanks query.1 a.1 a.2).getD Entry.empty) := by
  rw [testingStep, answer]
  rcases Retrieval.parse model query.2 with e | _ | q
  · rfl
  · rfl
  · dsimp only
    rcases Retrieval.results index model q with e | _ | list <;> rfl

/-- The first query that ends the run ends the first pass. -/
theorem stop_collect (queries : List (String × String)) :
    (Step.collect (testingStep index x model pageRanks) queries).2 =
      queries.findSome? (Retrieval.fatal? index model) := by
  rw [funext (testingStep_eq index model x pageRanks), Step.stop_collect_ofExcept]
  simp only [Except.failure?_map, failure?_answer]

/-- Where no query ends the run, something is written for all of them. -/
theorem collect_of_ok {queries : List (String × String)}
    (runs_on : queries.findSome? (Retrieval.fatal? index model) = none) :
    Step.collect (testingStep index x model pageRanks) queries =
      (queries.map (entryOf index model x pageRanks), none) := by
  rw [funext (testingStep_eq index model x pageRanks), Step.collect_ofExcept_of_ok]
  · refine congrArg (·, none) (List.map_congr_left fun query _ => ?_)
    rw [entryOf, answer?]
    rcases answer index model query.2 with e | _ | a <;> rfl
  · simpa only [Except.failure?_map, failure?_answer] using runs_on

theorem textOf_pieces (entry : Entry) :
    Writer.textOf .first entry.pieces = String.join entry.results ∧
      Writer.textOf .second entry.pieces = String.join entry.features := by
  constructor <;> simp [Writer.textOf, Entry.pieces, List.filter_map, Function.comp_def]

/-- The first file holds the lines of the results of the first pass. -/
theorem textOf_first (queries : List (String × String)) :
    Writer.textOf .first ((queries.map (entryOf index model x pageRanks)).flatMap Entry.pieces) =
      String.join ((firstPass index model queries).map fun r => RankingFile.text r.1 r.2) := by
  induction queries with
  | nil => rfl
  | cons query queries ih =>
    rw [List.map_cons, List.flatMap_cons, Writer.textOf_append, (textOf_pieces _).1, ih,
      firstPass_cons, List.map_append, String.join_append, entryOf]
    cases answer? index model query.2 with
    | none => rfl
    | some a => simp [testingEntry]

/-- The second one holds the lines of their feature rows. -/
theorem textOf_second (queries : List (String × String)) :
    Writer.textOf .second ((queries.map (entryOf index model x pageRanks)).flatMap Entry.pieces) =
      lines x (testingRows index model x pageRanks queries) := by
  induction queries with
  | nil => rfl
  | cons query queries ih =>
    rw [List.map_cons, List.flatMap_cons, Writer.textOf_append, (textOf_pieces _).2, ih,
      testingRows_cons, lines_append, entryOf]
    cases answer? index model query.2 with
    | none => rfl
    | some a => rw [Option.map_some, Option.getD_some, testingEntry, join_pieces]; rfl

end Generic

/-! ### Documents of the first pass -/

section Drafts

variable {drafts : List Draft} {model : RetrievalModel Number} {queries : List (String × String)}
  {qid : String} {list : ScoreList Number}

/-- A result of the first pass is what is reported of the matches of one of the queries. -/
theorem exists_of_mem_firstPass {index : Index}
    (member : (qid, list) ∈ firstPass index model queries) :
    ∃ text, ∃ q : Query Number, ∃ found, (qid, text) ∈ queries ∧
      q.execute index model = .ok found ∧ list = found.rank := by
  obtain ⟨query, given, answered⟩ := List.mem_filterMap.1 member
  obtain ⟨_, evaluated, same⟩ := Option.map_eq_some_iff.1 answered
  obtain ⟨rfl, rfl⟩ := Prod.mk.inj same
  cases parsed : Query.parse (α := Number) model.defaultOperator query.2 with
  | error e => simp [Retrieval.evaluate_of_rejected index parsed, Except.toOption] at evaluated
  | ok q =>
    rw [Retrieval.evaluate_of_parsed parsed, Retrieval.results] at evaluated
    cases executed : q.execute index model with
    | error e =>
      rw [executed, Retrieval.skipLocal] at evaluated
      split at evaluated <;> simp [Except.toOption, Except.map] at evaluated
    | ok found =>
      rw [executed, Retrieval.skipLocal] at evaluated
      refine ⟨query.2, q, found, given, executed, ?_⟩
      simpa [Except.toOption, Except.map, eq_comm] using evaluated

theorem length_le_of_mem_firstPass {index : Index}
    (member : (qid, list) ∈ firstPass index model queries) :
    list.entries.length ≤ ScoreList.maxResults := by
  obtain ⟨text, q, found, -, -, rfl⟩ := exists_of_mem_firstPass member
  exact List.length_take_le _ _

/-- The documents of the first pass are those of the index under their names. -/
theorem named_of_mem_firstPass
    (member : (qid, list) ∈ firstPass (Index.ofDrafts drafts) model queries)
    {e : ScoredDocument Number} (listed : e ∈ list.entries) :
    ∃ draft ∈ drafts, e.externalId = draft.externalId := by
  obtain ⟨text, q, found, -, executed, rfl⟩ := exists_of_mem_firstPass member
  obtain ⟨draft, at_doc, named⟩ :=
    Query.named_of_execute executed (ScoreList.mem_of_mem_rank listed)
  exact ⟨draft, List.mem_of_getElem? at_doc, named⟩

/-- If documents are named apart, those of the first pass are found by their names. -/
theorem internalId?_of_mem_firstPass (apart : (drafts.map Draft.externalId).Nodup)
    (member : (qid, list) ∈ firstPass (Index.ofDrafts drafts) model queries)
    {e : ScoredDocument Number} (listed : e ∈ list.entries) :
    (Index.ofDrafts drafts).internalId? e.externalId = some e.doc := by
  obtain ⟨text, q, found, -, executed, rfl⟩ := exists_of_mem_firstPass member
  exact Query.internalId?_of_execute apart executed (ScoreList.mem_of_mem_rank listed)

/-- The first pass keeps the order of the queries. -/
theorem firstPass_sublist (index : Index) (model : RetrievalModel Number)
    (queries : List (String × String)) :
    ((firstPass index model queries).map Prod.fst).Sublist (queries.map Prod.fst) := by
  induction queries with
  | nil => exact List.Sublist.refl _
  | cons query queries ih =>
    rw [firstPass_cons, List.map_append, List.map_cons]
    cases answer? index model query.2 with
    | none => exact ih.cons _
    | some a => exact ih.cons_cons _

/-- There is one feature row for each document of the first pass, in the same order. -/
theorem ids_testingRows (apart : (drafts.map Draft.externalId).Nodup)
    {x : FeatureExtractor Number} (over_drafts : x.index = Index.ofDrafts drafts)
    (pageRanks : Table String Number) (model : RetrievalModel Number)
    (queries : List (String × String)) :
    (testingRows (Index.ofDrafts drafts) model x pageRanks queries).map rowId =
      Reranking.ids (firstPass (Index.ofDrafts drafts) model queries) := by
  induction queries with
  | nil => rfl
  | cons query queries ih =>
    have all_found : ∀ list : ScoreList Number,
        (query.1, list) ∈ firstPass (Index.ofDrafts drafts) model (query :: queries) →
        ∀ e ∈ list.entries, (Index.ofDrafts drafts).internalId? e.externalId = some e.doc :=
      fun list member e listed => internalId?_of_mem_firstPass apart member listed
    rw [firstPass_cons] at all_found ⊢
    rw [testingRows_cons, List.map_append, ih]
    cases answered : answer? (Index.ofDrafts drafts) model query.2 with
    | none => rfl
    | some a =>
      rw [Option.map_some, Option.getD_some, answerRows, ids_featureRows]
      · rw [Option.map_some, Option.toList_some, List.singleton_append, Reranking.ids_cons,
          List.map_map]
        rfl
      · refine List.forall_mem_map.2 fun e listed => ?_
        rw [over_drafts, all_found a.2 (by simp [answered]) e listed]
        rfl

/-- Feature rows of queries and documents that can stand in a feature line can be read back. -/
theorem plain_testingRows (apart : (drafts.map Draft.externalId).Nodup)
    {x : FeatureExtractor Number} (over_drafts : x.index = Index.ofDrafts drafts)
    (pageRanks : Table String Number) (model : RetrievalModel Number)
    (documents : ∀ draft ∈ drafts, FeatureFile.IsDocument draft.externalId)
    (numbers : ∀ query ∈ queries, FeatureFile.IsQuery query.1) :
    ∀ row ∈ testingRows (Index.ofDrafts drafts) model x pageRanks queries, row.Plain := by
  intro row member
  have listed := List.mem_map_of_mem (f := rowId) member
  rw [ids_testingRows apart over_drafts] at listed
  obtain ⟨⟨qid, list⟩, answered, listed⟩ := List.mem_flatMap.1 listed
  obtain ⟨e, listed, same⟩ := List.mem_map.1 listed
  obtain ⟨rfl, same_name⟩ := Prod.mk.inj same
  obtain ⟨text, -, -, given, -⟩ := exists_of_mem_firstPass answered
  obtain ⟨draft, indexed, named⟩ := named_of_mem_firstPass answered listed
  refine ⟨numbers _ given, ?_⟩
  rw [← same_name, named]
  exact documents draft indexed

end Drafts

end LearningRun

end RankedRetrieval
