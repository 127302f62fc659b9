import RankedRetrieval.Feedback.Expansion
import RankedRetrieval.Proofs.Index.Consistency
import RankedRetrieval.Proofs.Query.Leaves
import RankedRetrieval.Proofs.Query.Printing

/-!
# Parsing of expansions

The query of the best terms of a ranking is always parsed, but the parser analyses the terms once
more.

## Main Definitions

* `Expansion.tokens` — the tokens of scored terms
* `Expansion.selected` — the stems that are selected, the lowest score first

## Main Results

* `Expansion.candidates_ofDocuments` — no stem of an index is kept out as malformed
* `Expansion.arguments_tokens` — scored terms are arguments of a weighted operator
* `Expansion.parse_query` — what the query of scored terms is parsed to
* `Expansion.parse_query_scoreTerms` — the same for the best terms of a ranking

## Design Notes

The terms of an index are stems already.  The stemmer is not idempotent and a stem may be a stop
word, so a stem that is analysed again may turn into another stem or into none.  The query has a
leaf for each of its terms only where every term is its own analysis.
-/

namespace RankedRetrieval.Expansion

open Query

/-! ### Stems of an index -/

/-- The stems of a field of a document have been found in some text. -/
theorem exists_text_of_mem_stemsOf {docs : List Document} {field stem : String} {doc : DocId}
    (member : stem ∈ stemsOf (Index.ofDocuments docs) field doc) :
    ∃ text, stem ∈ Text.queryTerms text := by
  unfold stemsOf at member
  cases found : (Index.ofDocuments docs).termVector? doc field with
  | none => simp [found] at member
  | some v =>
    rw [found] at member
    obtain ⟨s, hs, rfl⟩ := List.mem_map.1 member
    obtain ⟨tokens, htokens, rfl⟩ := Option.map_eq_some_iff.1 found
    obtain ⟨slot, at_slot, -⟩ := Index.mem_statisticsFrom hs
    obtain ⟨stored, hstored, kept⟩ := Option.bind_eq_some_iff.1 htokens
    -- the tokens are those of the analysis of a text of the document
    rw [Index.docs_ofDocuments, List.getElem?_toArray, List.getElem?_map] at hstored
    obtain ⟨d, -, rfl⟩ := Option.map_eq_some_iff.1 hstored
    rw [Index.store, Table.get?_ofList] at kept
    obtain ⟨entry, hentry, rfl⟩ := List.mem_map.1 (List.mem_of_getLast? kept)
    obtain ⟨⟨name, a⟩, ha, rfl⟩ := List.mem_map.1 (List.mem_of_mem_filter hentry)
    obtain ⟨⟨_, text⟩, -, same⟩ := List.mem_map.1 (List.mem_of_mem_filter ha)
    obtain ⟨rfl, rfl⟩ := Prod.mk.inj same
    obtain ⟨position, placed⟩ := FieldTokens.mem_stems.1 (List.mem_of_getElem? at_slot)
    exact ⟨text, List.mem_map_of_mem placed⟩

/-- A stem of a text is fit for the query language. -/
theorem isMalformed_eq_false {text stem : String} (member : stem ∈ Text.queryTerms text) :
    isMalformed stem = false := by
  have plain := (Text.solid_of_mem_queryTerms member).plain
  refine List.any_eq_false.2 fun c hc => ?_
  have unmarked := plain c hc
  rw [Bool.or_eq_true, decide_eq_true_eq, decide_eq_true_eq, not_or]
  constructor
  · rintro rfl
    exact unmarked (by decide)
  · rintro rfl
    exact unmarked (by decide)

/-- No stem of an index is kept out as malformed. -/
theorem candidates_ofDocuments (docs : List Document) (field : String) (best : List DocId) :
    candidates (Index.ofDocuments docs) field best =
      FieldTokens.distinct (best.flatMap (stemsOf (Index.ofDocuments docs) field)) := by
  have none_malformed : ∀ stem ∈ best.flatMap (stemsOf (Index.ofDocuments docs) field),
      (!isMalformed stem) = true := by
    intro stem member
    obtain ⟨doc, -, held⟩ := List.mem_flatMap.1 member
    obtain ⟨text, found⟩ := exists_text_of_mem_stemsOf held
    rw [isMalformed_eq_false found]
    rfl
  rw [candidates, List.filter_eq_self.2 none_malformed]

section ScoreTerms

variable {α : Type} [Scalar α]

/-- The best terms are candidates. -/
theorem mem_candidates_of_mem_scoreTerms {index : Index} {ranking : List (DocId × α)}
    {p : FeedbackParameters α} {field : String} {scored : String × α}
    (member : scored ∈ scoreTerms index ranking p field) :
    scored.1 ∈ candidates index field ((ranking.take p.docs).map Prod.fst) := by
  have sorted := List.mem_mergeSort.1 (List.mem_of_mem_take member)
  obtain ⟨term, hterm, rfl⟩ := List.mem_map.1 sorted
  exact hterm

/-- The best terms are solid, since they have been found in texts. -/
theorem solid_of_mem_scoreTerms {docs : List Document} {ranking : List (DocId × α)}
    {p : FeedbackParameters α} {field : String} {scored : String × α}
    (member : scored ∈ scoreTerms (Index.ofDocuments docs) ranking p field) :
    Text.Solid scored.1.toList := by
  have candidate := mem_candidates_of_mem_scoreTerms member
  rw [candidates_ofDocuments, FieldTokens.mem_distinct] at candidate
  obtain ⟨doc, -, held⟩ := List.mem_flatMap.1 candidate
  obtain ⟨text, found⟩ := exists_text_of_mem_stemsOf held
  exact Text.solid_of_mem_queryTerms found

end ScoreTerms

/-! ### The text of an expansion -/

/-- The tokens of scored terms: each behind its weight. -/
def tokens (terms : List (String × Number)) : List Token :=
  terms.flatMap fun scored => [.word (Decimal.fixed 4 scored.2.value), .word scored.1]

theorem plainWord_fixed (places : Nat) (x : Number) : PlainWord (Decimal.fixed places x.value) :=
  plainWord_of_numberText (Decimal.numberText_fixed places x.value)

theorem tokenized_terms {terms : List (String × Number)}
    (solid : ∀ scored ∈ terms, Text.Solid scored.1.toList) :
    Tokenized (" ".intercalate (terms.map weightedTerm)).toList (tokens terms) := by
  induction terms with
  | nil => exact .nil
  | cons scored terms ih =>
    obtain ⟨first, others⟩ := List.forall_mem_cons.1 solid
    obtain ⟨word, -⟩ := plainWord_of_solid first
    have weight := plainWord_fixed 4 scored.2
    exact tokenized_intercalate_cons
      (tokenized_spaced (tokenized_word weight.nonempty weight.within)
        (tokenized_word word.nonempty word.within)) (ih others)

/-- Scored terms are arguments of a weighted operator, which have the stems of the terms as their
leaves. -/
theorem arguments_tokens {op : Operator} (weighted : op.isWeighted = true)
    {terms : List (String × Number)}
    (solid : ∀ scored ∈ terms, Text.Solid scored.1.toList) :
    ∃ (args : List (Query Number)) (weights : List Number),
      Arguments op (tokens terms) args weights ∧
        leavesAll args =
          (terms.flatMap fun scored => Text.queryTerms scored.1).map (·, defaultField) := by
  induction terms with
  | nil => exact ⟨[], [], .done, rfl⟩
  | cons scored terms ih =>
    obtain ⟨first, others⟩ := List.forall_mem_cons.1 solid
    obtain ⟨word, split⟩ := plainWord_of_solid first
    obtain ⟨args, weights, arguments, leaves⟩ := ih others
    obtain ⟨weight, read⟩ := (Decimal.numberText_fixed 4 scored.2.value).readNumber
    have item : Item (α := Number) [.word scored.1]
        ((Text.queryTerms scored.1).map fun stem => term stem defaultField) :=
      .terms (not_reserved_of_unmarked word.unmarked) split
    refine ⟨_, _, .weighted weighted ((plainWord_fixed 4 scored.2).weight read) item arguments, ?_⟩
    rw [leavesAll_append, leavesAll_map_under, leavesAll_map_term, leaves, List.flatMap_cons,
      List.map_append]

theorem operator_structure (model : RetrievalModel Number) :
    (operator model).isWeighted = true ∧ operator model ≠ .score ∧
      BoundedDistance (operator model) := by
  unfold operator
  split <;> exact ⟨rfl, by decide, fun n distance => by simp at distance⟩

/-- The query of solid terms is an operator over their stems, the last term first. -/
theorem item_query (model : RetrievalModel Number) {terms : List (String × Number)}
    (solid : ∀ scored ∈ terms, Text.Solid scored.1.toList) :
    ∃ (found : List Token) (args : List (Query Number)) (weights : List Number),
      Tokenized (query model terms).toList found ∧
        Item found [apply (operator model) args weights] ∧
        leavesAll args =
          (terms.reverse.flatMap fun scored => Text.queryTerms scored.1).map
            (·, defaultField) := by
  have backwards : ∀ scored ∈ terms.reverse, Text.Solid scored.1.toList :=
    fun scored member => solid scored (List.mem_reverse.1 member)
  obtain ⟨weighted, not_score, bounded⟩ := operator_structure model
  obtain ⟨args, weights, arguments, leaves⟩ := arguments_tokens weighted backwards
  exact ⟨_, args, weights, tokenized_operator (operator model) (tokenized_terms backwards),
    .operator (keyword_text not_score bounded) arguments, leaves⟩

/-- The query of solid terms is parsed under every model.  Its leaves are the stems of the terms,
the last term first, all of them in the usual field. -/
theorem parse_query (model : RetrievalModel Number) {terms : List (String × Number)}
    (solid : ∀ scored ∈ terms, Text.Solid scored.1.toList) :
    ∃ q : Query Number, parse model.defaultOperator (query model terms) = .ok q ∧
      q.leaves =
        (terms.reverse.flatMap fun scored => Text.queryTerms scored.1).map (·, defaultField) := by
  obtain ⟨found, args, weights, tokenized, item, leaves⟩ := item_query model solid
  -- the expansion is the only argument of the default operator
  obtain ⟨-, -, unweighted⟩ := defaultOperator_structure model
  have whole := Arguments.item unweighted item .done
  rw [List.append_nil, List.append_nil] at whole
  refine ⟨_, parse_iff_derived.2 ⟨_, _, _, tokenized, whole, rfl⟩, ?_⟩
  rw [leaves_cleanup, Query.leaves, leavesAll_map_under, leavesAll_singleton, Query.leaves, leaves]

/-! ### The best terms -/

/-- The stems that are selected from the best documents of a ranking, the lowest score first. -/
def selected (index : Index) (ranking : List (DocId × Number)) (p : FeedbackParameters Number)
    (field : String) : List String :=
  ((scoreTerms index ranking p field).map Prod.fst).reverse

/-- All candidates are selected when there are no more of them than are asked for. -/
theorem selected_perm {index : Index} {ranking : List (DocId × Number)}
    {p : FeedbackParameters Number} {field : String} {stems : List String}
    (found : candidates index field ((ranking.take p.docs).map Prod.fst) = stems)
    (few : stems.length ≤ p.terms) : (selected index ranking p field).Perm stems := by
  let scored (term : String) : String × Number :=
    (term, termScore index p.mu field (ranking.take p.docs) term)
  have sorted : (scoreTerms index ranking p field).Perm (stems.map scored) := by
    unfold scoreTerms
    dsimp only
    rw [found, List.take_of_length_le (by rwa [List.length_mergeSort, List.length_map])]
    exact List.mergeSort_perm _ precedes
  have terms : (stems.map scored).map Prod.fst = stems := by
    rw [List.map_map]
    exact List.map_id stems
  have mapped := sorted.map Prod.fst
  rw [terms] at mapped
  exact (List.reverse_perm _).trans mapped

/-- The query of the stems that are selected is parsed under every model.  Its leaves are what
these stems are analysed to, all of them in the usual field; so they are the selected stems where
each of these is its own analysis. -/
theorem parse_query_scoreTerms (docs : List Document) (ranking : List (DocId × Number))
    (p : FeedbackParameters Number) (field : String) (model : RetrievalModel Number) :
    ∃ q : Query Number,
      parse model.defaultOperator
          (query model (scoreTerms (Index.ofDocuments docs) ranking p field)) = .ok q ∧
        q.leaves =
          ((selected (Index.ofDocuments docs) ranking p field).flatMap Text.queryTerms).map
            (·, defaultField) ∧
        ((∀ stem ∈ selected (Index.ofDocuments docs) ranking p field,
            Text.queryTerms stem = [stem]) →
          q.leaves =
            (selected (Index.ofDocuments docs) ranking p field).map (·, defaultField)) := by
  have solid : ∀ scored ∈ scoreTerms (Index.ofDocuments docs) ranking p field,
      Text.Solid scored.1.toList :=
    fun scored member => solid_of_mem_scoreTerms member
  obtain ⟨q, parsed, leaves⟩ := parse_query model solid
  have analysed : q.leaves =
      ((selected (Index.ofDocuments docs) ranking p field).flatMap Text.queryTerms).map
        (·, defaultField) := by
    rw [leaves, selected, ← List.map_reverse, List.flatMap_map]
  refine ⟨q, parsed, analysed, fun stable => ?_⟩
  rw [analysed, List.flatMap_congr stable, List.flatMap_singleton']

/-- Two stems that are their own analyses. -/
theorem parse_expand_alpha :
    ∃ q : Query Number,
      parse .and (expand
          (Index.ofDocuments [(Document.named "d").withField "keywords" "alpha beta"])
          [(0, (1.0 : Number))] defaultParameters (.indri Indri.default)) = .ok q ∧
        q.leaves.Perm [("alpha", "body"), ("beta", "body")] := by
  have found : candidates
      (Index.ofDocuments [(Document.named "d").withField "keywords" "alpha beta"]) field [0] =
        ["alpha", "beta"] := by
    decide +kernel
  have stable : ∀ stem ∈ ["alpha", "beta"], Text.queryTerms stem = [stem] := by decide +kernel
  have taken : (selected
      (Index.ofDocuments [(Document.named "d").withField "keywords" "alpha beta"])
      [(0, 1.0)] defaultParameters field).Perm ["alpha", "beta"] :=
    selected_perm found (by decide)
  obtain ⟨q, parsed, -, leaves⟩ := parse_query_scoreTerms
    [(Document.named "d").withField "keywords" "alpha beta"] [(0, 1.0)] defaultParameters field
    (.indri Indri.default)
  refine ⟨q, parsed, ?_⟩
  rw [leaves fun stem member => stable stem (taken.subset member)]
  exact taken.map (·, defaultField)

/-- Of two stems one turns into another stem when it is analysed again, and the other one is
dropped as a stop word. -/
theorem parse_expand_databases :
    ∃ q : Query Number,
      parse .and (expand
          (Index.ofDocuments [(Document.named "d").withField "keywords" "databases others"])
          [(0, (1.0 : Number))] defaultParameters (.indri Indri.default)) = .ok q ∧
        (selected
          (Index.ofDocuments [(Document.named "d").withField "keywords" "databases others"])
          [(0, 1.0)] defaultParameters field).Perm ["databas", "other"] ∧
        q.leaves = [("databa", "body")] := by
  have found : candidates
      (Index.ofDocuments [(Document.named "d").withField "keywords" "databases others"]) field [0] =
        ["databas", "other"] := by
    decide +kernel
  have again : ["databas", "other"].flatMap Text.queryTerms = ["databa"] := by decide +kernel
  have taken : (selected
      (Index.ofDocuments [(Document.named "d").withField "keywords" "databases others"])
      [(0, 1.0)] defaultParameters field).Perm ["databas", "other"] :=
    selected_perm found (by decide)
  have solid : ∀ scored ∈ scoreTerms
      (Index.ofDocuments [(Document.named "d").withField "keywords" "databases others"])
      [(0, (1.0 : Number))] defaultParameters field, Text.Solid scored.1.toList :=
    fun scored member => solid_of_mem_scoreTerms member
  obtain ⟨q, parsed, leaves⟩ := parse_query (.indri Indri.default) solid
  refine ⟨q, parsed, taken, ?_⟩
  have analysed := taken.flatMap_right Text.queryTerms
  rw [again, List.perm_singleton, selected, ← List.map_reverse, List.flatMap_map] at analysed
  rw [leaves, analysed]
  rfl

end RankedRetrieval.Expansion
