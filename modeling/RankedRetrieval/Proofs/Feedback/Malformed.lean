import RankedRetrieval.Proofs.Feedback.Expansion
import RankedRetrieval.Proofs.Query.Nesting
import RankedRetrieval.Proofs.Run.Blocks
import RankedRetrieval.Run.Feedback

/-!
# Malformed queries in a run with feedback

What a run writes for a query whose text is not parsed.

## Main Definitions

* `FeedbackRun.resultText`, `FeedbackRun.expansionText` — what a run writes to its two files

## Main Results

* `Expansion.parse_of_parse_combine` — a text that stays within itself is parsed whenever its
  combination with an expansion is
* `FeedbackRun.malformed_skipped` — what a malformed query adds to a run

## Design Notes

**The two ways to find the best documents differ.**  When the queries are run first, a malformed
text is noticed before anything is written.  With a ranking that is given, the expansion is
written first, and only the text that is pasted into the combined query is ever parsed.

**A text can end what it is pasted into.**  The combined query is then parsed although the text
is not.  So the results of a malformed query are only known to be empty when its text closes
nothing but what it has opened.
-/

namespace RankedRetrieval

open Query

/-! ### Combined queries -/

namespace Expansion

theorem text_weight (x : Number) :
    ∃ weight : Number, Weight (Numeral.text x) weight ∧ PlainWord (Numeral.text x) := by
  have written := Decimal.numberText_shortest x.value
  obtain ⟨weight, read⟩ := written.readNumber
  have plain : PlainWord (Numeral.text x) := plainWord_of_numberText written
  exact ⟨weight, plain.weight read, plain⟩

/-- The tokens of a combined query: the text stands inside the default operator, and behind it a
weight and the expansion. -/
theorem tokenized_combine (p : FeedbackParameters Number) (model : RetrievalModel Number)
    {text expansion : String} {inside added : List Token}
    (tokenized : Tokenized text.toList inside) (expanded : Tokenized expansion.toList added) :
    Tokenized (combine p model text expansion).toList
      (.word Operator.wsum.text :: .word (Numeral.text p.queryWeight) ::
        .word model.defaultOperator.text :: (inside ++ .close ::
          .word (Numeral.text (Scalar.ofNat 1 - p.queryWeight)) :: (added ++ [.close]))) := by
  obtain ⟨-, -, first⟩ := text_weight p.queryWeight
  obtain ⟨-, -, second⟩ := text_weight (Scalar.ofNat 1 - p.queryWeight)
  have original := tokenized_operator model.defaultOperator tokenized
  have whole := tokenized_operator .wsum (tokenized_spaced
    (tokenized_word first.nonempty first.within) (tokenized_spaced original
      (tokenized_spaced (tokenized_word second.nonempty second.within) expanded)))
  have gap : ") " = ")" ++ " " := rfl
  rw [combine, gap]
  simpa [String.append_assoc] using whole

theorem keyword_wsum : Keyword Operator.wsum.text .wsum :=
  keyword_text (by decide) (fun n distance => by simp at distance)

theorem keyword_defaultOperator (model : RetrievalModel Number) :
    Keyword model.defaultOperator.text model.defaultOperator := by
  obtain ⟨not_score, structural, -⟩ := defaultOperator_structure model
  refine keyword_text not_score fun n distance => ?_
  rcases distance with same | same <;> simp [same, Operator.isPositional] at structural

section Combined

variable {p : FeedbackParameters Number} {model : RetrievalModel Number} {text expansion : String}
  {added : List Token} {qs : List (Query Number)} {combined : Query Number}

/-- What stands behind the text is balanced, so a text that stays within itself is balanced where
the whole of it is parsed. -/
theorem balanced_of_parse_combine (within : WithinItself text)
    (expanded : Tokenized expansion.toList added) (item : Item added qs)
    (parsed : parse model.defaultOperator (combine p model text expansion) = .ok combined) :
    Token.depthAfter? 0 (Token.lex text) = some 0 := by
  obtain ⟨depth, reached⟩ := Option.isSome_iff_exists.1 within
  obtain ⟨_, first, -⟩ := text_weight p.queryWeight
  obtain ⟨_, second, -⟩ := text_weight (Scalar.ofNat 1 - p.queryWeight)
  have inside : Tokenized text.toList (Token.lex text) := tokenized_iff.2 rfl
  have found := tokenized_iff.1 (tokenized_combine p model inside expanded)
  obtain ⟨tokens, args, weights, tokenized, arguments, -⟩ := parse_iff_derived.1 parsed
  have settled := Arguments.depthAfter?_eq arguments 0
  rw [← tokenized_iff.1 tokenized, found, depthAfter?_keyword keyword_wsum,
    depthAfter?_free first.free, depthAfter?_keyword (keyword_defaultOperator model),
    depthAfter?_append, depthAfter?_add reached 2, Option.bind_some] at settled
  -- both parentheses behind the text close what stands in front of it
  have closed : Token.depthAfter? (depth + 2) (.close ::
      .word (Numeral.text (Scalar.ofNat 1 - p.queryWeight)) :: (added ++ [.close])) =
        some depth := by
    rw [Token.depthAfter?, depthAfter?_free second.free, depthAfter?_append,
      Item.depthAfter?_eq item, Option.bind_some, Token.depthAfter?, Token.depthAfter?]
  rw [closed] at settled
  rw [reached, settled]

/-- A text that stays within itself is parsed whenever its combination with an item is. -/
theorem parse_of_parse_combine (within : WithinItself text)
    (expanded : Tokenized expansion.toList added) (item : Item added qs)
    (parsed : parse model.defaultOperator (combine p model text expansion) = .ok combined) :
    ∃ q : Query Number, parse model.defaultOperator text = .ok q := by
  have balanced := balanced_of_parse_combine within expanded item parsed
  have tokenized : Tokenized text.toList (Token.lex text) := tokenized_iff.2 rfl
  have found := tokenized_iff.1 (tokenized_combine p model tokenized expanded)
  obtain ⟨_, first, -⟩ := text_weight p.queryWeight
  -- the parser enters the default operator before it reads the text
  obtain ⟨raw, read, -⟩ := Except.map_eq_ok_iff.1 parsed
  rw [found, List.cons_append, parseTokens_keyword keyword_wsum, List.cons_append,
    parseTokens_weight first rfl, List.cons_append,
    parseTokens_keyword (keyword_defaultOperator model), List.append_assoc,
    List.cons_append] at read
  obtain ⟨args, weights, arguments⟩ := arguments_of_enclosed balanced read
  exact ⟨_, parse_iff_derived.2 ⟨_, args, weights, tokenized, arguments, rfl⟩⟩

end Combined

end Expansion

/-! ### Runs -/

namespace FeedbackRun

section Runs

variable {α : Type} [Scalar α] [Numeral α]

/-- What is written to the file of the results. -/
def resultText (written : List Entry) : String :=
  Writer.textOf .first (written.flatMap Entry.pieces)

/-- What is written to the file of the expansions. -/
def expansionText (written : List Entry) : String :=
  Writer.textOf .second (written.flatMap Entry.pieces)

theorem resultText_append (written others : List Entry) :
    resultText (written ++ others) = resultText written ++ resultText others := by
  rw [resultText, List.flatMap_append, Writer.textOf_append]
  rfl

theorem expansionText_append (written others : List Entry) :
    expansionText (written ++ others) = expansionText written ++ expansionText others := by
  rw [expansionText, List.flatMap_append, Writer.textOf_append]
  rfl

/-- A run depends on what it writes and on how it ends. -/
theorem runOn_congr {index : Index} {p : RunParameters α} {f : FeedbackRun α}
    {ranking? : Option (Table String (List (String × α)))} {queries others : List (String × String)}
    (pieces : (entries index p f ranking? queries).1.flatMap Entry.pieces =
      (entries index p f ranking? others).1.flatMap Entry.pieces)
    (stop : (entries index p f ranking? queries).2 = (entries index p f ranking? others).2) :
    runOn index p f ranking? queries = runOn index p f ranking? others := by
  unfold runOn
  simp only [pieces, stop]

/-- A query that writes nothing and does not end the run changes nothing. -/
theorem runOn_insert {index : Index} {p : RunParameters α} {f : FeedbackRun α}
    {ranking? : Option (Table String (List (String × α)))} {query : String × String}
    (before after : List (String × String))
    (taken : step index p.model.firstPass f.parameters ranking? query = ⟨Entry.empty, none⟩) :
    runOn index p f ranking? (before ++ query :: after) =
      runOn index p f ranking? (before ++ after) := by
  obtain same | ⟨early, late, stop?, without, inserted⟩ := Step.collect_insert _ taken before after
  · exact runOn_congr (by rw [entries, same, entries]) (by rw [entries, same, entries])
  · refine runOn_congr ?_ ?_
    · rw [entries, entries, without, inserted]
      simp [Entry.empty, Entry.pieces]
    · rw [entries, entries, without, inserted]

/-- Without a ranking to expand from, nothing is written for a text that is not parsed. -/
theorem step_none (index : Index) {model : RetrievalModel α} (p : FeedbackParameters α)
    {query : String × String} {e : QueryError}
    (rejected : Query.parse (α := α) model.defaultOperator query.2 = .error e) :
    step index model p none query = ⟨Entry.empty, none⟩ := by
  have nothing : best index model none p.docs query = .ok none := by
    rw [best, Retrieval.evaluate_of_rejected index rejected]
    rfl
  rw [step, nothing]

end Runs

/-- With a ranking to expand from, only the expansion is written for a text that is not parsed and
that stays within itself. -/
theorem step_some (docs : List Document) {model : RetrievalModel Number}
    (p : FeedbackParameters Number) (ranking : Table String (List (String × Number)))
    {query : String × String} {e : QueryError}
    (rejected : Query.parse (α := Number) model.defaultOperator query.2 = .error e)
    (within : WithinItself query.2) :
    step (Index.ofDocuments docs) model p (some ranking) query =
      ⟨⟨[query.1, ": ", Expansion.expand (Index.ofDocuments docs)
        (given (Index.ofDocuments docs) ranking p.docs query.1) p model, "\n"], []⟩, none⟩ := by
  have solid : ∀ scored ∈ Expansion.scoreTerms (Index.ofDocuments docs)
      (given (Index.ofDocuments docs) ranking p.docs query.1) p Expansion.field,
        Text.Solid scored.1.toList :=
    fun scored member => Expansion.solid_of_mem_scoreTerms member
  obtain ⟨added, _, _, expanded, item, -⟩ := Expansion.item_query model solid
  have skipped : Retrieval.evaluate (Index.ofDocuments docs) model
      (Expansion.combine p model query.2 (Expansion.expand (Index.ofDocuments docs)
        (given (Index.ofDocuments docs) ranking p.docs query.1) p model)) = .ok none := by
    cases parsed : Query.parse (α := Number) model.defaultOperator (Expansion.combine p model
        query.2 (Expansion.expand (Index.ofDocuments docs)
          (given (Index.ofDocuments docs) ranking p.docs query.1) p model)) with
    | error cause => exact Retrieval.evaluate_of_rejected _ parsed
    | ok combined =>
      obtain ⟨q, alone⟩ := Expansion.parse_of_parse_combine within expanded item parsed
      rw [alone] at rejected
      simp at rejected
  rw [step, best]
  dsimp only
  rw [expandedStep, skipped]
  rfl

/-- A query whose text is not parsed writes nothing when the queries are run first.  With a
ranking that is given it writes its expansion, but neither results nor anything to the lines of
other queries, provided that its text closes nothing but what it has opened. -/
theorem malformed_skipped (docs : List Document) (p : RunParameters Number)
    (f : FeedbackRun Number) {query : String × String} {e : QueryError}
    (rejected : Query.parse (α := Number) p.model.firstPass.defaultOperator query.2 = .error e)
    (before after : List (String × String)) :
    (∀ index, runOn index p f none (before ++ query :: after) =
      runOn index p f none (before ++ after)) ∧
    (WithinItself query.2 → ∀ ranking,
      let index := Index.ofDocuments docs
      let with_query := entries index p f (some ranking) (before ++ query :: after)
      let without := entries index p f (some ranking) (before ++ after)
      let top := given index ranking f.parameters.docs query.1
      let line :=
        query.1 ++ ": " ++ Expansion.expand index top f.parameters p.model.firstPass ++ "\n"
      resultText with_query.1 = resultText without.1 ∧ with_query.2 = without.2 ∧
      (with_query = without ∨ ∃ early late,
        expansionText without.1 = early ++ late ∧
        expansionText with_query.1 = early ++ line ++ late)) := by
  refine ⟨fun index => runOn_insert before after (step_none index f.parameters rejected), ?_⟩
  intro within ranking
  have taken := step_some docs f.parameters ranking rejected within
  obtain same | ⟨early, late, stop?, without, inserted⟩ := Step.collect_insert _ taken before after
  · have same_entries : entries (Index.ofDocuments docs) p f (some ranking)
        (before ++ query :: after) =
          entries (Index.ofDocuments docs) p f (some ranking) (before ++ after) := same
    dsimp only
    rw [same_entries]
    exact ⟨rfl, rfl, .inl rfl⟩
  · dsimp only
    rw [entries, entries, inserted, without]
    refine ⟨?_, rfl, .inr ⟨_, _, expansionText_append _ _, ?_⟩⟩
    · rw [resultText_append, resultText_append, ← List.singleton_append, resultText_append]
      simp [resultText, Entry.pieces, Writer.textOf]
    · rw [expansionText_append, ← List.singleton_append, expansionText_append,
        ← String.append_assoc]
      simp [expansionText, Entry.pieces, Writer.textOf, String.append_assoc]

/-- Parameters of a run under BM25. -/
def plainParameters : RunParameters Number where
  index := "index"
  queries := "queries.txt"
  output := "out.txt"
  model := .bm25 Bm25.default
  feedback := none
  learning := none

/-- Feedback from a ranking that is given. -/
def plainFeedback : FeedbackRun Number where
  parameters := Expansion.defaultParameters
  initialRanking := some "init.txt"
  expansions := "exp.txt"

/-- A document with a keyword, and one without any. -/
def plainDocuments : List Document :=
  [(Document.named "a").withField "keywords" "alpha", (Document.named "b").withField "body" "cat"]

/-- A ranking that finds the first of these documents for one query. -/
def plainRanking : Table String (List (String × Number)) :=
  Table.ofList [("1", [("a", Scalar.ofNat 1)])]

/-- A query without documents to expand from is mixed with nothing. -/
theorem combine_expand_nil (index : Index) :
    Expansion.combine plainFeedback.parameters plainParameters.model.firstPass "cat"
      (Expansion.expand index [] plainFeedback.parameters plainParameters.model.firstPass) =
        "#wsum(0.5 #sum(cat) 0.5 #wsum())" := by
  have nothing : Expansion.scoreTerms index [] plainFeedback.parameters Expansion.field = [] := by
    simp [Expansion.scoreTerms, Expansion.candidates, FieldTokens.distinct]
  rw [Expansion.expand, nothing]
  decide +kernel

/-- A query that the ranking does not hold writes a line of results all the same. -/
theorem entries_plain :
    ∃ entry, entries (Index.ofDocuments plainDocuments) plainParameters plainFeedback
      (some plainRanking) [("2", "cat")] = ([entry], none) ∧ entry.results ≠ [] := by
  let index := Index.ofDocuments plainDocuments
  let model := plainParameters.model.firstPass
  let mixed := "#wsum(0.5 #sum(cat) 0.5 #wsum())"
  have answered : ((Query.parse (α := Number) model.defaultOperator mixed).bind fun q =>
      q.execute index model).toOption.map ScoreList.length = some 1 := by
    decide +kernel
  cases parsed : Query.parse (α := Number) model.defaultOperator mixed with
  | error e => simp [parsed, Except.bind, Except.toOption] at answered
  | ok q =>
    cases executed : q.execute index model with
    | error e => simp [parsed, executed, Except.bind, Except.toOption] at answered
    | ok list =>
      have one : list.entries.length = 1 := by
        rw [parsed, Except.bind, executed] at answered
        exact Option.some.inj answered
      have evaluated : Retrieval.evaluate index model mixed = .ok (some list.rank) := by
        rw [Retrieval.evaluate_of_parsed parsed, Retrieval.results, executed]
        rfl
      have unranked : given index plainRanking plainFeedback.parameters.docs "2" = [] := rfl
      have taken : step index model plainFeedback.parameters (some plainRanking) ("2", "cat") =
          ⟨⟨["2", ": ", Expansion.expand index [] plainFeedback.parameters model, "\n"],
            RankingFile.pieces "2" list.rank⟩, none⟩ := by
        rw [step, best]
        dsimp only
        rw [unranked, expandedStep, combine_expand_nil, evaluated]
        rfl
      refine ⟨_, Step.collect_cons _ taken [], ?_⟩
      have ranked : list.rank.entries.length = 1 := by
        rw [(ScoreList.reported_rank list).length_eq, one]
        rfl
      obtain ⟨entry, only⟩ := List.length_eq_one_iff.1 ranked
      simp [RankingFile.pieces, only, RankingFile.piecesFrom, RankingFile.linePieces]

/-- A query in a field that there is none of has a document to expand from, and stands before a
query that finds a document. -/
theorem malformed_skipped_field :
    let index := Index.ofDocuments plainDocuments
    let written := entries index plainParameters plainFeedback (some plainRanking)
    let top := given index plainRanking plainFeedback.parameters.docs "1"
    let line := "1" ++ ": " ++ Expansion.expand index top plainFeedback.parameters
      plainParameters.model.firstPass ++ "\n"
    Query.parse (α := Number) plainParameters.model.firstPass.defaultOperator "dog.author" =
        .error (.unknownField "dog.author") ∧
      WithinItself "dog.author" ∧
      (Expansion.scoreTerms index top plainFeedback.parameters Expansion.field).map Prod.fst =
        ["alpha"] ∧
      runOn index plainParameters plainFeedback none [("1", "dog.author"), ("2", "cat")] =
        runOn index plainParameters plainFeedback none [("2", "cat")] ∧
      (∃ entry, (written [("2", "cat")]).1 = [entry] ∧ entry.results ≠ []) ∧
      resultText (written [("1", "dog.author"), ("2", "cat")]).1 =
        resultText (written [("2", "cat")]).1 ∧
      ∃ early late, expansionText (written [("2", "cat")]).1 = early ++ late ∧
        expansionText (written [("1", "dog.author"), ("2", "cat")]).1 = early ++ line ++ late := by
  intro index written top line
  have rejected : Query.parse (α := Number) plainParameters.model.firstPass.defaultOperator
      "dog.author" = .error (.unknownField "dog.author") :=
    Except.failure?_eq_some_iff.1 (by decide +kernel)
  have within : WithinItself "dog.author" := by decide +kernel
  have keyword : Expansion.candidates index Expansion.field (top.map Prod.fst) = ["alpha"] := by
    decide +kernel
  obtain ⟨entry, second, some_results⟩ := entries_plain
  obtain ⟨unranked, ranked⟩ := @malformed_skipped plainDocuments plainParameters plainFeedback
    ("1", "dog.author") _ rejected [] [("2", "cat")]
  obtain ⟨same_results, -, either⟩ := ranked within plainRanking
  refine ⟨rejected, within, ?_, unranked index, ⟨entry, congrArg Prod.fst second, some_results⟩,
    same_results, either.resolve_left fun same => ?_⟩
  · have taken : top.take plainFeedback.parameters.docs = top := rfl
    rw [Expansion.scoreTerms, taken, keyword, List.map_singleton, List.mergeSort_singleton]
    rfl
  · -- the first query writes its expansion, so it is not as if it were left out
    have first := @step_some plainDocuments _ plainFeedback.parameters plainRanking
      ("1", "dog.author") _ rejected within
    have more := Step.collect_cons _ first [("2", "cat")]
    rw [List.nil_append, List.nil_append] at same
    exact List.cons_ne_self _ _ (congrArg Prod.fst (more.symm.trans same))

/-- A text that ends the operator it is pasted into is not parsed, but its combination is. -/
theorem parse_combine_of_early_end :
    (Query.parse (α := Number) .sum "dog) 0.3 #sum(cat").failure? =
        some (.trailingTokens "0.3 #sum cat )") ∧
      (Query.parse (α := Number) .sum (Expansion.combine Expansion.defaultParameters
        (.bm25 Bm25.default : RetrievalModel Number) "dog) 0.3 #sum(cat"
          "#wsum()")).failure? = none := by
  decide +kernel

end FeedbackRun

end RankedRetrieval
