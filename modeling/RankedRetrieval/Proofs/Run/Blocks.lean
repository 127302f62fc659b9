import RankedRetrieval.Proofs.Files.RankingLines
import RankedRetrieval.Proofs.Query.Nesting
import RankedRetrieval.Proofs.Ranking.Execution
import RankedRetrieval.Proofs.Ranking.Order
import RankedRetrieval.Proofs.Run.Actions
import RankedRetrieval.Run.Retrieval

/-!
# Blocks of a run

A run over a file of queries writes one block for each of them, and no block depends on another
query.

## Main Definitions

* `Retrieval.blockText` — the block of a query
* `Retrieval.Skipped` — queries that write nothing
* `Retrieval.runOn` — what a run does after its input has been read
* `Retrieval.Blockwise` — what a run leaves behind

## Main Results

* `Retrieval.runOn_insert` — a query that is skipped changes nothing for the others
* `Retrieval.block_of_execute` — the block of a query that is answered
* `Retrieval.run_blocks` — runs write their blocks, and blocks report the best matches

## Design Notes

A block is a function of the index, the model and the query.  So what has to be shown is that a
run puts these blocks one after the other, and where it stops.
-/

namespace RankedRetrieval.Retrieval

section Generic

variable {α : Type} [Scalar α] [Numeral α] {index : Index} {model : RetrievalModel α}

/-! ### Blocks -/

/-- The block of a query; nothing for a query that ends the run. -/
def blockText (index : Index) (model : RetrievalModel α) (query : String × String) : String :=
  (block index model query).toOption.getD ""

/-- The error by which a query ends the run, if it does. -/
def fatal? (index : Index) (model : RetrievalModel α) (query : String × String) :
    Option QueryError :=
  (block index model query).failure?

/-- A query that is skipped: it has an error of its own, or it matches nothing. -/
inductive Skipped (index : Index) (model : RetrievalModel α) (text : String) : Prop where
  /-- The text is rejected. -/
  | rejected {e : QueryError}
      (unparsed : Query.parse (α := α) model.defaultOperator text = .error e)
  /-- The query fails, and its error is confined to it. -/
  | failed {q : Query α} {e : QueryError} (parsed : Query.parse model.defaultOperator text = .ok q)
      (stopped : q.execute index model = .error e) (confined : e.isQueryLocal = true)
  /-- The query matches nothing. -/
  | unmatched {q : Query α} (parsed : Query.parse model.defaultOperator text = .ok q)
      (nothing : q.execute index model = .ok ⟨[]⟩)

/-- A text that is not parsed is skipped. -/
theorem evaluate_of_rejected (index : Index) {text : String} {e : QueryError}
    (rejected : Query.parse (α := α) model.defaultOperator text = .error e) :
    evaluate index model text = .ok none := by
  have skipped : parse model text = .ok none := by
    rw [parse, rejected, skipLocal, Query.isQueryLocal_of_parse rejected, if_pos rfl]
  rw [evaluate, skipped]

theorem evaluate_of_parsed {text : String} {q : Query α}
    (parsed : Query.parse model.defaultOperator text = .ok q) :
    evaluate index model text = results index model q := by
  have denoted : parse model text = .ok (some q) := by rw [parse, parsed, skipLocal]
  rw [evaluate, denoted]

/-- The block of a query that is executed holds the lines of its best matches. -/
theorem block_of_execute {query : String × String} {q : Query α} {list : ScoreList α}
    (parsed : Query.parse model.defaultOperator query.2 = .ok q)
    (executed : q.execute index model = .ok list) :
    block index model query = .ok (RankingFile.text query.1 list.rank) := by
  rw [block, evaluate_of_parsed parsed, results, executed]
  rfl

/-- The block of a query that is skipped is empty. -/
theorem block_of_skipped {query : String × String} (skipped : Skipped index model query.2) :
    block index model query = .ok "" := by
  cases skipped with
  | rejected unparsed =>
    rw [block, evaluate_of_rejected index unparsed]
    rfl
  | failed parsed stopped confined =>
    rw [block, evaluate_of_parsed parsed, results, stopped, skipLocal, if_pos confined]
    rfl
  | unmatched parsed nothing =>
    have empty : (ScoreList.mk ([] : List (ScoredDocument α))).rank = ⟨[]⟩ := by
      simp [ScoreList.rank, ScoreList.sort, ScoreList.truncate]
    rw [block_of_execute parsed nothing, empty]
    rfl

/-- A query ends the run when its execution fails with an error that is not confined to it. -/
theorem block_eq_error_iff {query : String × String} {e : QueryError} :
    block index model query = .error e ↔
      ∃ q : Query α, Query.parse model.defaultOperator query.2 = .ok q ∧
        q.execute index model = .error e ∧ e.isQueryLocal = false := by
  cases parsed : Query.parse (α := α) model.defaultOperator query.2 with
  | error cause =>
    have skipped : block index model query = .ok "" := block_of_skipped (.rejected parsed)
    simp [skipped]
  | ok q =>
    cases executed : q.execute index model with
    | ok list => simp [block_of_execute parsed executed, executed]
    | error cause =>
      rw [block, evaluate_of_parsed parsed, results, executed, skipLocal]
      cases confined : cause.isQueryLocal with
      | true =>
        simp only [if_true, Except.map, Except.ok.injEq, reduceCtorEq, false_iff]
        rintro ⟨_, rfl, same, fatal⟩
        rw [executed] at same
        obtain rfl := Except.error.inj same
        simp [confined] at fatal
      | false =>
        simp only [Bool.false_eq_true, if_false, Except.map, Except.error.injEq]
        constructor
        · rintro rfl
          exact ⟨q, rfl, executed, confined⟩
        · rintro ⟨_, same_query, same, -⟩
          obtain rfl := Except.ok.inj same_query
          rw [executed] at same
          exact Except.error.inj same

/-! ### Runs -/

/-- What a run does after its queries have been read. -/
def runOn (index : Index) (p : RunParameters α) (queries : List (String × String)) :
    Action Unit := do
  Action.create p.output
  let (written, stop?) := blocks index p.model.firstPass queries
  Action.write p.output (String.join written)
  Action.stop stop?
  Action.close p.output (String.join written)

theorem run_eq (index : Index) (p : RunParameters α) :
    run index p = (do
      let queries ← Action.input (Input.queries · p.queries)
      runOn index p queries) := rfl

theorem blocks_eq (index : Index) (model : RetrievalModel α) (queries : List (String × String)) :
    String.join (blocks index model queries).1 =
        String.join ((queries.takeWhile fun query => (fatal? index model query).isNone).map
          (blockText index model)) ∧
      (blocks index model queries).2 = queries.findSome? (fatal? index model) :=
  ⟨Step.join_collect_ofExcept (block index model) queries,
    Step.stop_collect_ofExcept "" (block index model) queries⟩

/-- A run over queries of which one is skipped is the run without it. -/
theorem runOn_insert {p : RunParameters α} {query : String × String}
    (skipped : Skipped index p.model.firstPass query.2) (before after : List (String × String)) :
    runOn index p (before ++ query :: after) = runOn index p (before ++ after) := by
  have taken : Step.ofExcept "" (block index p.model.firstPass query) = ⟨"", none⟩ := by
    rw [block_of_skipped skipped, Step.ofExcept]
  obtain ⟨same_text, same_stop⟩ :
      String.join (blocks index p.model.firstPass (before ++ query :: after)).1 =
          String.join (blocks index p.model.firstPass (before ++ after)).1 ∧
        (blocks index p.model.firstPass (before ++ query :: after)).2 =
          (blocks index p.model.firstPass (before ++ after)).2 := by
    obtain same | ⟨early, late, stop?, without, inserted⟩ :=
      Step.collect_insert (fun query => Step.ofExcept "" (block index p.model.firstPass query))
        taken before after
    · rw [blocks, same, blocks]
      exact ⟨rfl, rfl⟩
    · rw [blocks, inserted, blocks, without]
      simp [String.join_append]
  unfold runOn
  simp only [same_text, same_stop]

/-- What a run leaves behind. -/
structure Blockwise (index : Index) (p : RunParameters α) (queries : List (String × String))
    (s : FileStore) (l : Location) : Prop where
  /-- The file of the results holds the blocks of the queries before the first one that ends the
  run, in their order. -/
  results : (run index p s).2.fileAt? l = some (Text.encode (String.join
    ((queries.takeWhile fun query => (fatal? index p.model.firstPass query).isNone).map
      (blockText index p.model.firstPass))))
  /-- The run ends with the error of that query, or succeeds. -/
  outcome : (run index p s).1 = match queries.findSome? (fatal? index p.model.firstPass) with
    | none => .ok ()
    | some e => .error (.query e)
  /-- No other file changes. -/
  others : ∀ k, k ≠ l → (run index p s).2.fileAt? k = s.fileAt? k

theorem blockwise (index : Index) {p : RunParameters α} {queries : List (String × String)}
    {s : FileStore} {l : Location} (given : Input.queries s p.queries = .ok queries)
    (reached : s.target p.output = .ok l) (kept : l.isDevice = false) :
    Blockwise index p queries s l := by
  obtain ⟨text, stop⟩ := blocks_eq index p.model.firstPass queries
  have found := FileStore.fileAt?_rewrite reached kept
    (String.join (blocks index p.model.firstPass queries).1)
  have left_behind : run index p s =
      (match queries.findSome? (fatal? index p.model.firstPass) with
        | none => .ok ()
        | some e => .error (.query e),
      s.rewrite p.output (String.join (blocks index p.model.firstPass queries).1) l) := by
    rw [run_eq, Action.bind_ok (Action.input_ok given), runOn,
      Action.bind_ok (Action.create_ok reached)]
    dsimp only
    rw [Action.bind_ok (Action.write_ok _ _ _), ← stop]
    cases (blocks index p.model.firstPass queries).2 with
    | some e => exact Action.bind_error (Action.stop_some e _)
    | none =>
      rw [Action.bind_ok (Action.stop_none _)]
      exact Action.close_ok (FileStore.target_rewrite reached reached _) kept _
  refine ⟨?_, ?_, fun k other => ?_⟩
  · rw [left_behind, found, if_pos rfl, text]
  · rw [left_behind]
  · rw [left_behind, found, if_neg (Ne.symm other)]

end Generic

/-! ### Reported matches -/

/-- What is executed repeats no document. -/
theorem nodup_of_execute {docs : List Document} {model : RetrievalModel Number}
    {q : Query Number} {list : ScoreList Number}
    (executed : q.execute (Index.ofDocuments docs) model = .ok list) :
    (list.entries.map ScoredDocument.doc).Nodup := by
  cases built : q.scoringTree (Index.ofDocuments docs) model with
  | ok tree =>
    obtain ⟨entries, run, ranking⟩ := Query.execute_ranking built
    obtain rfl := Except.ok.inj (executed.symm.trans run)
    exact ranking.increasing.imp Nat.ne_of_lt
  | error e =>
    rw [Query.execute, built] at executed
    split at executed
    · obtain rfl := Except.ok.inj executed
      exact List.nodup_nil
    · simp at executed

/-- Every query of a run has its own block.  The file of the results holds the blocks before the
first query whose error is not confined to it, and that error ends the run; a query that is
skipped has an empty block, and the run is the same without it; any other block reports the best
of the documents that its query matches, each once, under ranks that count from one. -/
theorem run_blocks (docs : List Document) (p : RunParameters Number) :
    (∀ {s : FileStore} {l : Location} {queries : List (String × String)},
      Input.queries s p.queries = .ok queries → s.target p.output = .ok l →
        l.isDevice = false → Blockwise (Index.ofDocuments docs) p queries s l) ∧
    (∀ {query : String × String}, Skipped (Index.ofDocuments docs) p.model.firstPass query.2 →
      block (Index.ofDocuments docs) p.model.firstPass query = .ok "" ∧
      ∀ before after, runOn (Index.ofDocuments docs) p (before ++ query :: after) =
        runOn (Index.ofDocuments docs) p (before ++ after)) ∧
    (∀ {query : String × String} {e : QueryError},
      block (Index.ofDocuments docs) p.model.firstPass query = .error e ↔
        ∃ q : Query Number, Query.parse p.model.firstPass.defaultOperator query.2 = .ok q ∧
          q.execute (Index.ofDocuments docs) p.model.firstPass = .error e ∧
          e.isQueryLocal = false) ∧
    (∀ {query : String × String} {q : Query Number} {list : ScoreList Number},
      Query.parse p.model.firstPass.defaultOperator query.2 = .ok q →
      q.execute (Index.ofDocuments docs) p.model.firstPass = .ok list →
      ∃ ranked, block (Index.ofDocuments docs) p.model.firstPass query =
          .ok (String.join ((ranked.zipIdx 1).map fun r =>
            RankingFile.body query.1 r.2 r.1 ++ "\n")) ∧
        ScoreList.Reported list.entries ranked ∧ (ranked.map ScoredDocument.doc).Nodup ∧
        ∀ tree, q.scoringTree (Index.ofDocuments docs) p.model.firstPass = .ok tree →
          ScoringTree.Ranking (Index.ofDocuments docs) p.model.firstPass 0 tree
            list.entries) := by
  refine ⟨fun given reached kept => blockwise _ given reached kept,
    fun skipped => ⟨block_of_skipped skipped, runOn_insert skipped⟩,
    block_eq_error_iff, fun {query q list} parsed executed => ?_⟩
  have reported := ScoreList.reported_rank list
  refine ⟨list.rank.entries, ?_, reported, reported.nodup (nodup_of_execute executed),
    fun tree built => ?_⟩
  · rw [block_of_execute parsed executed, RankingFile.text_eq_bodies]
  · obtain ⟨entries, run, ranking⟩ := Query.execute_ranking built
    obtain rfl := Except.ok.inj (executed.symm.trans run)
    exact ranking

/-- Parameters of a run under the ranked Boolean model. -/
def booleanParameters : RunParameters Number where
  index := "index"
  queries := "queries.txt"
  output := "out.txt"
  model := .rankedBoolean
  feedback := none
  learning := none

/-- A store with a file of queries. -/
def storeOf (text : String) : FileStore :=
  ⟨[], Table.ofList [(["queries.txt"], Text.encode text)], []⟩

/-- A run over two documents, with a query that is rejected and one that ends the run. -/
theorem run_blocks_boolean :
    let docs := [(Document.named "a").withField "body" "dog cat",
      (Document.named "b").withField "body" "dog"]
    let index := Index.ofDocuments docs
    let s := storeOf "1: dog\n2: dog.author\n3: #sum(dog cat)\n4: cat\n"
    let queries := [("1", "dog"), ("2", "dog.author"), ("3", "#sum(dog cat)"), ("4", "cat")]
    Blockwise index booleanParameters queries s ["out.txt"] ∧
      (run index booleanParameters s).1 = .error (.query (.unsupported "RankedBoolean" "#sum")) ∧
      runOn index booleanParameters [("1", "dog"), ("2", "dog.author")] =
        runOn index booleanParameters [("1", "dog")] ∧
      ∃ ranked : List (ScoredDocument Number), ranked.length = 2 ∧
        block index booleanParameters.model.firstPass ("1", "dog") =
          .ok (String.join ((ranked.zipIdx 1).map fun r =>
            RankingFile.body "1" r.2 r.1 ++ "\n")) := by
  intro docs index s queries
  obtain ⟨leaving, skipping, -, reporting⟩ := run_blocks docs booleanParameters
  have given : Input.queries s booleanParameters.queries = .ok queries := rfl
  have reached : s.target booleanParameters.output = .ok ["out.txt"] := rfl
  have left_behind := leaving given reached (by decide)
  have stopped : queries.findSome? (fatal? index booleanParameters.model.firstPass) =
      some (.unsupported "RankedBoolean" "#sum") := by
    decide +kernel
  have skipped : Skipped index booleanParameters.model.firstPass "dog.author" :=
    .rejected (e := .unknownField "dog.author") (Except.failure?_eq_some_iff.1 (by decide +kernel))
  refine ⟨left_behind, by rw [left_behind.outcome, stopped],
    (@skipping ("2", "dog.author") skipped).2 [("1", "dog")] [], ?_⟩
  have answered : ((Query.parse (α := Number) .or "dog").bind fun q =>
      q.execute index .rankedBoolean).toOption.map ScoreList.length = some 2 := by
    decide +kernel
  cases parsed : Query.parse (α := Number) .or "dog" with
  | error e => simp [parsed, Except.bind, Except.toOption] at answered
  | ok q =>
    cases executed : q.execute index .rankedBoolean with
    | error e => simp [parsed, executed, Except.bind, Except.toOption] at answered
    | ok list =>
      obtain ⟨ranked, shape, reported, -⟩ := @reporting ("1", "dog") q list parsed executed
      have two : list.length = 2 := by
        simpa [parsed, executed, Except.bind, Except.toOption] using answered
      refine ⟨ranked, ?_, shape⟩
      rw [reported.length_eq]
      show min 100 list.length = 2
      rw [two]
      rfl

end RankedRetrieval.Retrieval
