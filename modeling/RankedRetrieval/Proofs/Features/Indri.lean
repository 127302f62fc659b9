import RankedRetrieval.Proofs.Features.Bm25

/-!
# The smoothed feature beside the smoothed score

The feature weighs the terms of a query evenly; the engine weighs a term by how often the query
repeats it.

## Main Definitions

* `Indri.smoothed` — the smoothed score of a term in a document, whether it holds the term or not
* `QueryTerms.evenly` — terms with one frequency for all of them

## Main Results

* `Query.scoreOf?_and_overTerms` — the engine's score of the conjunction of some terms
* `FeatureExtractor.indriScore_eq` — the feature as an even mean over the terms
* `FeatureExtractor.indri_feature_eq_score` — the feature is the score of the conjunction that
  repeats all terms equally often
* `FeatureExtractor.indri_feature_ne_score` — it is not the score of every conjunction

## Design Notes

**The frequencies of the terms are not looked at.**  So the feature of a query is the score of
another query, in which every term occurs as often as any other.  Both agree where the query
repeats all of its terms equally often, and only there in general.
-/

namespace RankedRetrieval

variable {α : Type} [Scalar α]

/-! ### Smoothed scores of terms -/

/-- The smoothed score of a term in a document; the term may be missing there. -/
def Indri.smoothed (index : Index) (p : Indri α) (field : String) (doc : DocId) (stem : String) :
    α :=
  p.termScore
    (Scalar.ofNat ((((index.postings stem field).find? fun posting => posting.doc = doc).map
      Posting.tf).getD 0))
    (Scalar.ofNat (index.termCollectionFreq stem field))
    (Scalar.ofNat (index.sumFieldLengths field)) (Scalar.ofNat (index.fieldLength field doc))

namespace ScoringTree

/-- The leaf of a term has the smoothed score of the term, or it as a default. -/
theorem scoreWithDefault_leaf (index : Index) (p : Indri α) (field : String) (doc : DocId)
    (stem : String) (qtf : Nat) :
    let leaf : ScoringTree α := leaf (Cursor.start (index.invertedList stem field)) qtf
    (if leaf.matchesDoc (.indri p) doc then scoreAt index (.indri p) doc leaf
      else defaultScore index (.indri p) doc leaf) = .ok (p.smoothed index field doc stem) := by
  intro leaf
  rw [Indri.smoothed]
  cases found : (index.postings stem field).find? fun posting => posting.doc = doc with
  | none =>
    have unmatched : ¬ leaf.matchesDoc (.indri p) doc := by
      intro matched
      obtain ⟨posting, member, same⟩ := matchesDoc_leaf.1 matched
      have other := List.find?_eq_none.1 found posting member
      simp [same] at other
    rw [if_neg unmatched]
    rfl
  | some posting =>
    have same : posting.doc = doc := by simpa using List.find?_some found
    have matched : leaf.matchesDoc (.indri p) doc :=
      matchesDoc_leaf.2 ⟨posting, List.mem_of_find?_eq_some found, same⟩
    have listed : (Cursor.start (index.invertedList stem field)).list.postings.find?
        (fun posting => posting.doc = doc) = some posting := found
    rw [if_pos matched, scoreAt, leafScoreAt, listed]
    dsimp only
    rw [postingScore, same]
    rfl

theorem scoresWithDefaults_leaves (index : Index) (p : Indri α) (field : String) (doc : DocId)
    (count : String → Nat) (stems : List String) :
    scoresWithDefaults index (.indri p) doc (stems.map fun stem =>
      leaf (Cursor.start (index.invertedList stem field)) (count stem)) =
        .ok (stems.map (p.smoothed index field doc)) := by
  induction stems with
  | nil => rfl
  | cons stem stems ih =>
    rw [List.map_cons, scoresWithDefaults,
      scoreWithDefault_leaf index p field doc stem (count stem), ih, List.map_cons]
    rfl

end ScoringTree

/-! ### The engine -/

/-- A conjunction of terms scores a document that holds one of them by the geometric mean of
their smoothed scores, where a term weighs as much as it is repeated. -/
theorem Query.scoreOf?_and_overTerms [Numeral α] {index : Index} {p : Indri α}
    (ordered : ∀ stem field, Ordered (index.postings stem field)) {field : String}
    {stems : List String} {doc : DocId}
    (held : ∃ stem ∈ stems, ∃ posting ∈ index.postings stem field, posting.doc = doc) :
    ∃ (list : ScoreList α) (ds : List String), ds.Nodup ∧ (∀ stem, stem ∈ ds ↔ stem ∈ stems) ∧
      (overTerms .and field stems).execute index (.indri p) = .ok list ∧
      list.scoreOf? doc = some (ScoringTree.geometricMean
        (ds.map fun stem => Argument.unitWeight (stems.count stem))
        (ds.map (p.smoothed index field doc))) := by
  obtain ⟨ds, distinct, members, built⟩ :=
    @scoringTree_overTerms α _ _ index (.indri p) .and rfl rfl rfl (by decide) rfl field stems
  obtain ⟨entries, run, ranking⟩ := execute_of_ordered ordered built
  obtain ⟨stem, member, posting, posted, same⟩ := held
  refine ⟨⟨entries⟩, ds, distinct, members, run, ?_⟩
  have matched : (ScoringTree.combine .and
      (ds.map fun stem => .leaf (Cursor.start (index.invertedList stem field)) (stems.count stem))
      (ds.map fun stem => Argument.unitWeight (stems.count stem)) none).matchesDoc (.indri p) doc =
        true := by
    refine (ScoringTree.matchesDoc_combine_any rfl).2 ⟨_, List.mem_map.2
      ⟨stem, (members stem).2 member, rfl⟩, ?_⟩
    exact ScoringTree.matchesDoc_leaf.2 ⟨posting, posted, same⟩
  rw [ranking.scoreOf?_eq, if_pos matched, ScoringTree.scoreAt_combine,
    ScoringTree.scoresWithDefaults_leaves]
  rfl

/-! ### The feature -/

/-- Terms with one frequency for all of them. -/
def QueryTerms.evenly (frequency : Nat) (terms : QueryTerms) : QueryTerms :=
  terms.map fun entry => (entry.1, frequency)

theorem QueryTerms.Distinct.evenly {terms : QueryTerms} (distinct : terms.Distinct)
    (frequency : Nat) : (terms.evenly frequency).Distinct := by
  rw [Distinct, QueryTerms.evenly, List.map_map]
  exact distinct

namespace FeatureExtractor

variable {drafts : List Draft} {doc : DocId} {field : String} {v : TermVector}
  {x : FeatureExtractor α} {terms : QueryTerms}

theorem length_eq_fieldLength {index : Index} (found : index.termVector? doc field = some v) :
    v.length = index.fieldLength field doc := by
  obtain ⟨tokens, has_field, rfl⟩ := Option.map_eq_some_iff.1 found
  rw [Index.fieldLength, has_field]
  rfl

/-- The feature takes the smoothed score of a term from the words of the document. -/
theorem indriTermScore_eq (over_drafts : x.index = Index.ofDrafts drafts)
    (found : x.index.termVector? doc field = some v) (stem : String) :
    x.indriTermScore field v stem = x.indri.smoothed x.index field doc stem := by
  rw [indriTermScore, Indri.smoothed, length_eq_fieldLength found]
  rw [over_drafts] at found ⊢
  cases looked_up : v.stem? stem with
  | none =>
    have absent : stem ∉ v.stems.map StemStatistics.stem := by
      intro member
      obtain ⟨s, hs, rfl⟩ := List.mem_map.1 member
      have other := List.find?_eq_none.1 looked_up s hs
      simp at other
    have unposted := mt (Index.mem_stems_of_termVector? found).2 absent
    have none_found : ((Index.ofDrafts drafts).postings stem field).find?
        (fun posting => posting.doc = doc) = none := by
      refine List.find?_eq_none.2 fun posting member same => ?_
      exact unposted ⟨posting, member, by simpa using same⟩
    rw [none_found]
    rfl
  | some s =>
    have member : s ∈ v.stems := List.mem_of_find?_eq_some looked_up
    obtain rfl : s.stem = stem := by simpa using List.find?_some looked_up
    obtain ⟨⟨posting, posted, at_doc, freq⟩, ctf, -⟩ :=
      Index.figures_of_mem_termVector? found member
    have first := (Index.postings_increasing drafts s.stem field).find?_eq posted
    have collected : (Index.ofDrafts drafts).termCollectionFreq s.stem field = s.ctf := by
      rw [Index.termCollectionFreq, Index.ctf_eq_sum, ctf]
      rfl
    rw [at_doc] at first
    rw [first, collected, Option.map_some, Option.getD_some, ← freq]

/-- In a document that holds one of the terms the feature is the geometric mean of their smoothed
scores, all weighing the same. -/
theorem indriScore_eq (over_drafts : x.index = Index.ofDrafts drafts)
    (found : x.index.termVector? doc field = some v)
    (held : ∃ entry ∈ terms, entry.1 ∈ v.stems.map StemStatistics.stem) :
    x.indriScore terms field v =
      Scalar.product ((terms.map Prod.fst).map fun stem =>
        Scalar.pow (x.indri.smoothed x.index field doc stem)
          (Scalar.ofNat 1 / Scalar.ofNat (terms.map Prod.fst).length)) := by
  have some_held : (terms.any fun entry => (v.stem? entry.1).isSome) = true := by
    obtain ⟨entry, member, stem⟩ := held
    obtain ⟨s, hs, same⟩ := List.mem_map.1 stem
    refine List.any_eq_true.2 ⟨entry, member, List.find?_isSome.2 ⟨s, hs, ?_⟩⟩
    simpa using same
  rw [indriScore, if_pos some_held, List.map_map, List.length_map]
  refine congrArg Scalar.product (List.map_congr_left fun entry _ => ?_)
  rw [indriTermScore_eq over_drafts found]
  rfl

variable [Numeral α]

/-- The enabled feature of a document that holds one of the terms is the even mean over them. -/
theorem extract_indri (drafts : List Draft) (bm25 : Bm25 α) (p : Indri α) (disabled : List Nat)
    (terms : QueryTerms) {n : Nat} (place : Feature.all[n]? = some (.indri field))
    (enabled : n + 1 ∉ disabled) {stem : String}
    (held : ∃ posting ∈ (Index.ofDrafts drafts).postings stem field, posting.doc = doc)
    (member : stem ∈ terms.map Prod.fst) (pageRank : Option α) :
    ((FeatureExtractor.mk (Index.ofDrafts drafts) bm25 p disabled).extract terms doc
      pageRank)[n]? = some (some (Scalar.product ((terms.map Prod.fst).map fun stem =>
        Scalar.pow (p.smoothed (Index.ofDrafts drafts) field doc stem)
          (Scalar.ofNat 1 / Scalar.ofNat (terms.map Prod.fst).length)))) := by
  obtain ⟨posting, posted, rfl⟩ := held
  obtain ⟨draft, a, hdraft, ha, -, -⟩ := Index.mem_postings.1 posted
  have has_field := Index.tokens?_eq_some_iff.2 ⟨draft, a, hdraft, ha, rfl⟩
  obtain ⟨v, found⟩ : ∃ v, (Index.ofDrafts drafts).termVector? posting.doc field = some v := by
    rw [Index.termVector?, has_field]
    exact ⟨_, rfl⟩
  have holds := (Index.mem_stems_of_termVector? found).2 ⟨posting, posted, rfl⟩
  have kept : (FeatureExtractor.mk (Index.ofDrafts drafts) bm25 p disabled).vector? posting.doc
      field = some v := by
    have some_stem : v.isEmpty = false := by
      rw [TermVector.isEmpty, List.isEmpty_eq_false_iff]
      rintro none_left
      simp [none_left] at holds
    rw [vector?, found, Option.filter_some, some_stem]
    rfl
  obtain ⟨entry, listed, rfl⟩ := List.mem_map.1 member
  have over_drafts : (FeatureExtractor.mk (Index.ofDrafts drafts) bm25 p disabled).index =
      Index.ofDrafts drafts := rfl
  rw [extract_getElem?, place, Option.map_some, if_neg (by simpa using enabled), value?, kept,
    Option.map_some, indriScore_eq over_drafts found ⟨entry, listed, holds⟩]

/-! ### The equality -/

/-- The smoothed feature of a field is the score that the document has under smoothing for the
conjunction of the terms in the field, each of them repeated the same number of times, whatever
the frequencies of the terms are. -/
theorem indri_feature_eq_score [Scalar.ExactArithmetic α] (drafts : List Draft) (bm25 : Bm25 α)
    (p : Indri α) (disabled : List Nat) {terms : QueryTerms} (distinct : terms.Distinct)
    {times : Nat} (positive : 1 ≤ times) {stems : List String}
    (listed : (terms.evenly times).ListedBy stems) {n : Nat}
    (place : Feature.all[n]? = some (.indri field)) (enabled : n + 1 ∉ disabled)
    (held : ∃ entry ∈ terms, ∃ posting ∈ (Index.ofDrafts drafts).postings entry.1 field,
      posting.doc = doc) (pageRank : Option α) :
    ∃ list score,
      (Query.overTerms .and field stems).execute (Index.ofDrafts drafts) (.indri p) = .ok list ∧
      list.scoreOf? doc = some score ∧
      ((FeatureExtractor.mk (Index.ofDrafts drafts) bm25 p disabled).extract terms doc
        pageRank)[n]? = some (some score) := by
  obtain ⟨entry, member, posted⟩ := held
  have names : (terms.evenly times).map Prod.fst = terms.map Prod.fst := by
    rw [QueryTerms.evenly, List.map_map]
    rfl
  have stem_iff (stem : String) : stem ∈ stems ↔ stem ∈ terms.map Prod.fst := by
    rw [← names]
    refine QueryTerms.mem_iff_of_listedBy (fun e he => ?_) listed
    obtain ⟨_, -, rfl⟩ := List.mem_map.1 he
    exact positive
  have in_query : entry.1 ∈ terms.map Prod.fst := List.mem_map_of_mem member
  obtain ⟨list, ds, distinct_ds, members, run, score⟩ :=
    Query.scoreOf?_and_overTerms (p := p) (Index.ordered_ofDrafts drafts)
      ⟨entry.1, (stem_iff entry.1).2 in_query, posted⟩
  refine ⟨list, _, run, score, ?_⟩
  have same_stems : ds.Perm (terms.map Prod.fst) :=
    (List.perm_ext_iff_of_nodup distinct_ds distinct).2 fun stem =>
      (members stem).trans (stem_iff stem)
  -- every term weighs as much as any other
  have weights : ((terms.map Prod.fst).map fun stem =>
      (Argument.unitWeight (stems.count stem) : α)) =
        (terms.map Prod.fst).map fun _ => Scalar.ofNat times := by
    refine List.map_congr_left fun stem hstem => ?_
    obtain ⟨e, he, rfl⟩ := List.mem_map.1 hstem
    rw [QueryTerms.count_eq (distinct.evenly times) listed (List.mem_map.2 ⟨e, he, rfl⟩),
      Scalar.unitWeight_eq_ofNat positive]
  rw [extract_indri drafts bm25 p disabled terms place enabled posted in_query,
    ScoringTree.geometricMean_perm _ _ same_stems, weights,
    ScoringTree.geometricMean_even positive]

/-- The feature at work: a query whose two terms have different frequencies, beside one that
repeats both of them twice, over the real numbers. -/
theorem indri_feature_eq_score_real :
    let drafts : List Draft :=
      [⟨"d0", [.setField "body" "apple and pie"]⟩, ⟨"d1", [.setField "body" "an apple"]⟩]
    let p : Indri ℝ := ⟨2500, 1⟩
    ∃ list score,
      (Query.overTerms .and "body" ["pie", "appl", "appl", "pie"]).execute
        (Index.ofDrafts drafts) (.indri p) = .ok list ∧
      list.scoreOf? 1 = some score ∧
      ((FeatureExtractor.mk (Index.ofDrafts drafts) ⟨1, 0, 2⟩ p [1]).extract
        [("appl", 3), ("pie", 1)] 1 none)[5]? = some (some score) := by
  intro drafts p
  have distinct : QueryTerms.Distinct [("appl", 3), ("pie", 1)] := by
    unfold QueryTerms.Distinct
    decide
  have listed : (QueryTerms.evenly 2 [("appl", 3), ("pie", 1)]).ListedBy
      ["pie", "appl", "appl", "pie"] := by
    unfold QueryTerms.ListedBy
    decide
  have held : ∃ posting ∈ (Index.ofDrafts drafts).postings "appl" "body", posting.doc = 1 := by
    decide +kernel
  exact indri_feature_eq_score drafts ⟨1, 0, 2⟩ p [1] distinct (by decide) listed rfl (by decide)
    ⟨("appl", 3), by decide, held⟩ none

/-! ### Uneven frequencies -/

/-- The smoothed score over the real numbers, as it is written on paper. -/
theorem smoothed_real {index : Index} {p : Indri ℝ} {stem : String} (tf ctf total length : Nat)
    (figures : (((index.postings stem field).find? fun posting => posting.doc = doc).map
      Posting.tf).getD 0 = tf ∧ index.termCollectionFreq stem field = ctf ∧
        index.sumFieldLengths field = total ∧ index.fieldLength field doc = length)
    (some_words : 0 < total) :
    p.smoothed index field doc stem =
      (1 - p.lambda) * ((tf + p.mu * (ctf / total)) / (length + p.mu)) +
        p.lambda * (ctf / total) := by
  obtain ⟨rfl, rfl, rfl, rfl⟩ := figures
  have positive : Scalar.less (Scalar.ofNat 0 : ℝ) (Scalar.ofNat (index.sumFieldLengths field)) =
      true := by
    simpa [Scalar.less, Scalar.ofNat_real] using some_words
  rw [Indri.smoothed, Indri.termScore, if_pos positive]
  simp only [Scalar.ofNat_real, Nat.cast_one]

/-- A mean in which the first of two numbers weighs twice as much. -/
theorem geometricMean_two_one (x y : ℝ) :
    ScoringTree.geometricMean [Scalar.ofNat 2, Scalar.ofNat 1] [x, y] =
      x ^ (2 / 3 : ℝ) * y ^ (1 / 3 : ℝ) := by
  have sum : Scalar.sum [(Scalar.ofNat 2 : ℝ), Scalar.ofNat 1] = 3 := by
    rw [Scalar.sum_eq_total]
    show ((0 : ℕ) : ℝ) + (2 : ℕ) + (1 : ℕ) = 3
    norm_num
  have positive : ¬ Scalar.atMost (3 : ℝ) (Scalar.ofNat 0) := by
    simp [Scalar.atMost, Scalar.ofNat_real]
  rw [ScoringTree.geometricMean, ScoringTree.shares, sum, if_neg positive]
  show ((1 : ℕ) : ℝ) * x ^ (((2 : ℕ) : ℝ) / 3) * y ^ (((1 : ℕ) : ℝ) / 3) = _
  rw [Nat.cast_one, one_mul, Nat.cast_two]

/-- A mean in which the greater of two numbers weighs twice as much is above their even mean. -/
theorem even_mean_lt {x y : ℝ} (positive : 0 < y) (greater : y < x) :
    Scalar.product [Scalar.pow x (Scalar.ofNat 1 / Scalar.ofNat 2),
        Scalar.pow y (Scalar.ofNat 1 / Scalar.ofNat 2)] <
      ScoringTree.geometricMean [Scalar.ofNat 2, Scalar.ofNat 1] [x, y] := by
  have some_x : 0 < x := positive.trans greater
  have split_x : x ^ (2 / 3 : ℝ) = x ^ (1 / 2 : ℝ) * x ^ (1 / 6 : ℝ) := by
    rw [← Real.rpow_add some_x]
    norm_num
  have split_y : y ^ (1 / 2 : ℝ) = y ^ (1 / 6 : ℝ) * y ^ (1 / 3 : ℝ) := by
    rw [← Real.rpow_add positive]
    norm_num
  have root : y ^ (1 / 6 : ℝ) < x ^ (1 / 6 : ℝ) :=
    Real.rpow_lt_rpow positive.le greater (by norm_num)
  rw [geometricMean_two_one]
  show ((1 : ℕ) : ℝ) * x ^ (((1 : ℕ) : ℝ) / (2 : ℕ)) * y ^ (((1 : ℕ) : ℝ) / (2 : ℕ)) < _
  rw [Nat.cast_one, one_mul, Nat.cast_two, split_x, split_y, mul_assoc]
  gcongr

/-- A query with uneven frequencies whose score is not the feature: the document holds the term
that the query repeats, and lacks the other one. -/
theorem indri_feature_ne_score :
    let drafts : List Draft :=
      [⟨"d0", [.setField "body" "apple"]⟩, ⟨"d1", [.setField "body" "pie"]⟩]
    let p : Indri ℝ := ⟨0, 1 / 2⟩
    QueryTerms.ListedBy [("appl", 2), ("pie", 1)] ["appl", "appl", "pie"] ∧
      ∃ list score,
        (Query.overTerms .and "body" ["appl", "appl", "pie"]).execute (Index.ofDrafts drafts)
          (.indri p) = .ok list ∧
        list.scoreOf? 0 = some score ∧
        ((FeatureExtractor.mk (Index.ofDrafts drafts) ⟨1, 0, 2⟩ p []).extract
          [("appl", 2), ("pie", 1)] 0 none)[5]? ≠ some (some score) := by
  intro drafts p
  have listed : QueryTerms.ListedBy [("appl", 2), ("pie", 1)] ["appl", "appl", "pie"] := by
    unfold QueryTerms.ListedBy
    decide
  have held : ∃ posting ∈ (Index.ofDrafts drafts).postings "appl" "body", posting.doc = 0 := by
    decide +kernel
  have some_held : ∃ stem ∈ ["appl", "appl", "pie"],
      ∃ posting ∈ (Index.ofDrafts drafts).postings stem "body", posting.doc = 0 :=
    ⟨"appl", by decide, held⟩
  obtain ⟨list, ds, distinct_ds, members, run, score⟩ :=
    Query.scoreOf?_and_overTerms (p := p) (Index.ordered_ofDrafts drafts) some_held
  refine ⟨listed, list, _, run, score, ?_⟩
  have same_stems : ds.Perm ["appl", "pie"] := by
    refine (List.perm_ext_iff_of_nodup distinct_ds (by decide)).2 fun stem => ?_
    simp [members]
  have appl : p.smoothed (Index.ofDrafts drafts) "body" 0 "appl" = 3 / 4 := by
    rw [smoothed_real 1 1 2 1 (by decide +kernel) (by decide)]
    norm_num
  have pie : p.smoothed (Index.ofDrafts drafts) "body" 0 "pie" = 1 / 4 := by
    rw [smoothed_real 0 1 2 1 (by decide +kernel) (by decide)]
    norm_num
  have weights : (["appl", "pie"].map fun stem =>
      (Argument.unitWeight (["appl", "appl", "pie"].count stem) : ℝ)) =
        [Scalar.ofNat 2, Scalar.ofNat 1] :=
    congrArg₂ (fun x y => [x, y]) (Scalar.unitWeight_eq_ofNat (by decide))
      (Scalar.unitWeight_eq_ofNat (by decide))
  have feature := extract_indri drafts ⟨1, 0, 2⟩ p [] [("appl", 2), ("pie", 1)] (n := 5) rfl
    (by decide) held (by decide) none
  rw [feature, ScoringTree.geometricMean_perm _ _ same_stems, weights]
  intro same
  refine (even_mean_lt (x := 3 / 4) (y := 1 / 4) (by norm_num) (by norm_num)).ne ?_
  rw [← appl, ← pie]
  exact Option.some.inj (Option.some.inj same)

end FeatureExtractor

end RankedRetrieval
