import RankedRetrieval.Proofs.Exact.Reals
import RankedRetrieval.Proofs.Features.QueryTerms
import RankedRetrieval.Proofs.Ranking.Results

/-!
# The BM25 feature is the BM25 score

The feature walks over the stems of the document and looks for them in the query; the engine
walks over the postings of the terms and looks for the document in them.

## Main Definitions

* `Bm25.share` — what a term adds to the score of a document

## Main Results

* `FeatureExtractor.extract_getElem?` — the place of a feature in the feature vector
* `Query.scoreOf?_sum_overTerms` — the score of a sum of terms
* `FeatureExtractor.bm25Score_eq` — the feature as a sum over the terms of the query
* `FeatureExtractor.bm25_feature_eq_score` — the feature is the score

## Design Notes

**Both sides are sums of the same shares.**  A share is looked up in the postings of the term,
and is missing where the document does not hold the term.  The engine adds up the shares of the
terms in the order in which they first occur, and the feature in the order in which the document
has its stems, so that exact sums are needed to compare them.
-/

namespace RankedRetrieval

variable {α : Type} [Scalar α]

/-! ### Shares -/

/-- What a term with its frequency adds to the score of a document; nothing when the document
does not hold it. -/
def Bm25.share (index : Index) (p : Bm25 α) (field : String) (doc : DocId)
    (entry : String × Nat) : Option α :=
  ((index.postings entry.1 field).find? fun posting => posting.doc = doc).map fun posting =>
    p.termScore (Scalar.ofNat posting.tf) (Scalar.ofNat (index.termDocFreq entry.1 field))
      (Scalar.ofNat index.numDocs) (Scalar.ofNat (index.fieldLength field doc))
      (Scalar.ofNat (index.sumFieldLengths field) / Scalar.ofNat (index.docCount field))
      (Scalar.ofNat entry.2)

namespace ScoringTree

/-- The leaf of a term matches the documents that it has a share in. -/
theorem matchesDoc_leaf_eq (index : Index) (p : Bm25 α) (field : String) (doc : DocId)
    (entry : String × Nat) :
    (leaf (Cursor.start (index.invertedList entry.1 field)) entry.2 :
      ScoringTree α).matchesDoc (.bm25 p) doc = (p.share index field doc entry).isSome := by
  rw [Bm25.share, Option.isSome_map, matchesDoc]
  show (index.postings entry.1 field).any _ = _
  rw [Bool.eq_iff_iff, List.any_eq_true, List.find?_isSome]

/-- The leaf of a term scores a document that it matches by its share. -/
theorem scoreAt_leaf {index : Index} {p : Bm25 α} {field : String} {doc : DocId}
    {entry : String × Nat} {s : α} (share : p.share index field doc entry = some s) :
    scoreAt index (.bm25 p) doc
      (leaf (Cursor.start (index.invertedList entry.1 field)) entry.2) = .ok s := by
  obtain ⟨posting, found, rfl⟩ := Option.map_eq_some_iff.1 share
  have same : posting.doc = doc := by simpa using List.find?_some found
  rw [scoreAt, leafScoreAt]
  have listed : (Cursor.start (index.invertedList entry.1 field)).list.postings.find?
      (fun posting => posting.doc = doc) = some posting := found
  rw [listed]
  dsimp only
  rw [postingScore, same]
  rfl

/-- The scores of a document by the leaves of some terms are their shares. -/
theorem scoresOfMatching_leaves (index : Index) (p : Bm25 α) (field : String) (doc : DocId)
    (entries : List (String × Nat)) :
    scoresOfMatching index (.bm25 p) doc (entries.map fun entry =>
      leaf (Cursor.start (index.invertedList entry.1 field)) entry.2) =
        .ok (entries.map (p.share index field doc)) := by
  induction entries with
  | nil => rfl
  | cons entry entries ih =>
    rw [List.map_cons, scoresOfMatching, matchesDoc_leaf_eq, ih, List.map_cons]
    cases share : p.share index field doc entry with
    | none => rfl
    | some s =>
      rw [scoreAt_leaf share]
      rfl

end ScoringTree

/-! ### The engine -/

namespace Query

variable [Numeral α] {index : Index} {p : Bm25 α} {field : String} {terms : QueryTerms}
  {stems : List String}

/-- The score of a sum of terms is the sum of their shares; a document without a share is not
matched. -/
theorem scoreOf?_sum_overTerms [Scalar.ExactSums α]
    (ordered : ∀ stem field, Ordered (index.postings stem field)) (distinct : terms.Distinct)
    (positive : ∀ entry ∈ terms, 1 ≤ entry.2) (listed : terms.ListedBy stems) (doc : DocId) :
    ∃ list, (overTerms .sum field stems).execute index (.bm25 p) = .ok list ∧
      (list.scoreOf? doc).getD (Scalar.ofNat 0) =
        Scalar.total (terms.filterMap (p.share index field doc)) := by
  obtain ⟨ds, distinct_ds, members, built⟩ :=
    @scoringTree_overTerms α _ _ index (.bm25 p) .sum rfl rfl rfl (by decide) rfl field stems
  obtain ⟨entries, run, ranking⟩ := execute_of_ordered ordered built
  refine ⟨⟨entries⟩, run, ?_⟩
  -- the terms in the order in which they first occur, with their counts
  let counted := ds.map fun stem => (stem, stems.count stem)
  have leaves : (ds.map fun stem =>
      (.leaf (Cursor.start (index.invertedList stem field)) (stems.count stem) : ScoringTree α)) =
        counted.map fun entry =>
          .leaf (Cursor.start (index.invertedList entry.1 field)) entry.2 := by
    rw [List.map_map]
    rfl
  have same_total : Scalar.total (counted.filterMap (p.share index field doc)) =
      Scalar.total (terms.filterMap (p.share index field doc)) :=
    Scalar.total_perm
      ((terms.counted_perm distinct positive listed distinct_ds members).filterMap _)
  rw [ranking.scoreOf?_eq, ← same_total, leaves]
  split
  · rw [ScoringTree.scoreAt_combine, ScoringTree.scoresOfMatching_leaves, ScoringTree.combined]
    simp only [Except.map, Except.toOption, Option.getD_some, List.filterMap_map]
    rfl
  · rename_i unmatched
    -- no leaf matches the document, so no term has a share
    have none_shared : counted.filterMap (p.share index field doc) = [] := by
      rw [List.filterMap_eq_nil_iff]
      intro entry member
      by_contra shared
      refine unmatched ((ScoringTree.matchesDoc_combine_any rfl).2
        ⟨_, List.mem_map_of_mem member, ?_⟩)
      rw [ScoringTree.matchesDoc_leaf_eq]
      exact Option.isSome_iff_ne_none.2 shared
    rw [none_shared]
    rfl

end Query

/-! ### The feature -/

namespace FeatureExtractor

variable {drafts : List Draft} {doc : DocId} {field : String} {v : TermVector}

/-- What the feature adds for a stem of the document is the share of the stem. -/
theorem share_of_mem_termVector? (p : Bm25 α)
    (found : (Index.ofDrafts drafts).termVector? doc field = some v) {s : StemStatistics}
    (member : s ∈ v.stems) (qtf : Nat) :
    p.share (Index.ofDrafts drafts) field doc (s.stem, qtf) =
      some (p.termScore (Scalar.ofNat s.freq) (Scalar.ofNat s.df)
        (Scalar.ofNat (Index.ofDrafts drafts).numDocs)
        (Scalar.ofNat ((Index.ofDrafts drafts).fieldLength field doc))
        (Scalar.ofNat ((Index.ofDrafts drafts).sumFieldLengths field) /
          Scalar.ofNat ((Index.ofDrafts drafts).docCount field))
        (Scalar.ofNat qtf)) := by
  obtain ⟨⟨posting, posted, at_doc, freq⟩, -, df⟩ := Index.figures_of_mem_termVector? found member
  have first := (Index.postings_increasing drafts s.stem field).find?_eq posted
  rw [at_doc] at first
  rw [Bm25.share, first, Option.map_some, freq, df]
  rfl

/-- The feature is the sum of the shares of the terms. -/
theorem bm25Score_eq [Scalar.ExactSums α] {x : FeatureExtractor α} {terms : QueryTerms}
    (over_drafts : x.index = Index.ofDrafts drafts) (distinct : terms.Distinct)
    (found : x.index.termVector? doc field = some v) :
    x.bm25Score terms doc field v =
      Scalar.total (terms.filterMap (x.bm25.share x.index field doc)) := by
  rw [over_drafts] at found
  let stems := v.stems.map StemStatistics.stem
  let looked_up := stems.filterMap fun stem => (frequency? terms stem).map fun q => (stem, q)
  -- the feature adds up the shares of the terms that it finds
  have summands : (v.stems.filterMap fun s => (frequency? terms s.stem).map fun qtf =>
      x.bm25.termScore (Scalar.ofNat s.freq) (Scalar.ofNat s.df) (Scalar.ofNat x.index.numDocs)
        (Scalar.ofNat (x.index.fieldLength field doc))
        (Scalar.ofNat (x.index.sumFieldLengths field) / Scalar.ofNat (x.index.docCount field))
        (Scalar.ofNat qtf)) = looked_up.filterMap (x.bm25.share x.index field doc) := by
    rw [List.filterMap_filterMap, List.filterMap_map]
    refine List.filterMap_congr fun s member => ?_
    cases known : frequency? terms s.stem with
    | none => simp [known]
    | some qtf => simp [known, over_drafts, share_of_mem_termVector? x.bm25 found member qtf]
  -- a term that the document does not hold has no share
  have others : (terms.filter fun entry => entry.1 ∈ stems).filterMap
      (x.bm25.share x.index field doc) = terms.filterMap (x.bm25.share x.index field doc) := by
    rw [List.filterMap_filter]
    refine List.filterMap_congr fun entry _ => ?_
    by_cases held : entry.1 ∈ stems
    · simp [held]
    · have unposted := mt (Index.mem_stems_of_termVector? found).2 held
      have none_shared : x.bm25.share x.index field doc entry = none := by
        rw [Bm25.share, Option.map_eq_none_iff, List.find?_eq_none, over_drafts]
        intro posting member same
        exact unposted ⟨posting, member, by simpa using same⟩
      simp [held, none_shared]
  have distinct_stems : stems.Nodup := Index.nodup_stems_of_termVector? found
  rw [bm25Score, Scalar.sum_eq_total, summands, ← others]
  exact Scalar.total_perm ((terms.found_perm distinct distinct_stems).filterMap _)

variable [Numeral α]

/-- The place of a feature in the feature vector is given by its number. -/
theorem valuesFrom_getElem? (x : FeatureExtractor α) (terms : QueryTerms) (doc : DocId)
    (pageRank : Option α) (first : Nat) (features : List Feature) (n : Nat) :
    (x.valuesFrom terms doc pageRank first features)[n]? =
      features[n]?.map fun feature =>
        if x.disabled.contains (first + n) then none
        else x.value? terms doc pageRank feature := by
  induction features generalizing first n with
  | nil => rfl
  | cons feature features ih =>
    cases n with
    | zero => rfl
    | succ n =>
      rw [valuesFrom, List.getElem?_cons_succ, ih, List.getElem?_cons_succ, Nat.add_right_comm,
        Nat.add_assoc]

theorem extract_getElem? (x : FeatureExtractor α) (terms : QueryTerms) (doc : DocId)
    (pageRank : Option α) (n : Nat) :
    (x.extract terms doc pageRank)[n]? =
      Feature.all[n]?.map fun feature =>
        if x.disabled.contains (n + 1) then none else x.value? terms doc pageRank feature := by
  rw [extract, valuesFrom_getElem?, Nat.add_comm]

/-! ### The equality -/

/-- The BM25 feature of a field is the score that the document has under BM25 for the sum of the
terms in the field, each of them repeated as often as its frequency says, and zero when the sum
does not match the document. -/
theorem bm25_feature_eq_score [Scalar.ExactSums α] (drafts : List Draft) (p : Bm25 α)
    (indri : Indri α) (disabled : List Nat) {terms : QueryTerms} (distinct : terms.Distinct)
    (positive : ∀ entry ∈ terms, 1 ≤ entry.2) {stems : List String}
    (listed : terms.ListedBy stems) {field : String} {n : Nat}
    (place : Feature.all[n]? = some (.bm25 field)) (enabled : n + 1 ∉ disabled) {doc : DocId}
    {tokens : FieldTokens} (has_field : (Index.ofDrafts drafts).tokens? field doc = some tokens)
    (has_stem : tokens.stems ≠ []) (pageRank : Option α) :
    ∃ list,
      (Query.overTerms .sum field stems).execute (Index.ofDrafts drafts) (.bm25 p) = .ok list ∧
      ((FeatureExtractor.mk (Index.ofDrafts drafts) p indri disabled).extract terms doc
        pageRank)[n]? = some (some ((list.scoreOf? doc).getD (Scalar.ofNat 0))) := by
  obtain ⟨list, run, score⟩ : ∃ list,
      (Query.overTerms .sum field stems).execute (Index.ofDrafts drafts) (.bm25 p) = .ok list ∧
      (list.scoreOf? doc).getD (Scalar.ofNat 0) =
        Scalar.total (terms.filterMap (p.share (Index.ofDrafts drafts) field doc)) :=
    Query.scoreOf?_sum_overTerms (Index.ordered_ofDrafts drafts) distinct positive listed doc
  refine ⟨list, run, ?_⟩
  let v : TermVector := ⟨(Index.ofDrafts drafts).statisticsFrom field tokens.slots 0 tokens.stems,
    tokens.slots⟩
  have found : (Index.ofDrafts drafts).termVector? doc field = some v := by
    rw [Index.termVector?, has_field]
    rfl
  have kept : (FeatureExtractor.mk (Index.ofDrafts drafts) p indri disabled).vector? doc field =
      some v := by
    have some_stem : v.stems ≠ [] := by
      intro no_stem
      have none_left := Index.stems_statisticsFrom (Index.ofDrafts drafts) field tokens.slots 0
        tokens.stems
      exact has_stem (none_left.symm.trans (congrArg (List.map StemStatistics.stem) no_stem))
    rw [vector?, found, Option.filter_some, if_pos (by simpa [TermVector.isEmpty] using some_stem)]
  rw [extract_getElem?, place, Option.map_some, if_neg (by simpa using enabled), value?, kept,
    Option.map_some, bm25Score_eq rfl distinct found, score]

/-- The feature at work: two documents, and a query that repeats one of its terms, over the real
numbers. -/
theorem bm25_feature_eq_score_real :
    let drafts : List Draft :=
      [⟨"d0", [.setField "body" "apple and pie"]⟩, ⟨"d1", [.setField "body" "an apple"]⟩]
    let p : Bm25 ℝ := ⟨1, 0, 2⟩
    ∃ list,
      (Query.overTerms .sum "body" ["pie", "appl", "appl"]).execute (Index.ofDrafts drafts)
        (.bm25 p) = .ok list ∧
      ((FeatureExtractor.mk (Index.ofDrafts drafts) p ⟨2500, 1⟩ [1]).extract
        [("appl", 2), ("pie", 1)] 1 none)[4]? =
          some (some ((list.scoreOf? 1).getD (Scalar.ofNat 0))) := by
  intro drafts p
  have distinct : QueryTerms.Distinct [("appl", 2), ("pie", 1)] := by
    unfold QueryTerms.Distinct
    decide
  have listed : QueryTerms.ListedBy [("appl", 2), ("pie", 1)] ["pie", "appl", "appl"] := by
    unfold QueryTerms.ListedBy
    decide
  have has_field : (Index.ofDrafts drafts).tokens? "body" 1 = some ⟨["appl"], [none, some 0]⟩ := by
    decide +kernel
  exact bm25_feature_eq_score drafts p ⟨2500, 1⟩ [1] distinct (by decide) listed rfl (by decide)
    has_field (by decide) none

end FeatureExtractor

end RankedRetrieval
