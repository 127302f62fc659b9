import RankedRetrieval.Proofs.Exact.Fractions
import RankedRetrieval.Feedback.Expansion
import RankedRetrieval.Proofs.Index.Consistency

/-!
# Feedback from documents that lack the field

What a document without the field of the expansion adds to the scores of terms.

## Main Definitions

* `Expansion.background`, `Expansion.rarity` — the share of a term in a field, and its weight
* `Expansion.holds` — whether a document of a ranking has the field
* `Expansion.surplus` — the scores of the documents that lack it
* `Expansion.bestTerms` — the best of some terms by their scores

## Main Results

* `Expansion.candidates_filter_holds` — documents that lack the field bring no candidates
* `Expansion.contribution_of_missing` — but they add to the score of every candidate
* `Expansion.termScore_eq` — by how much the score of a term exceeds that over the other documents
* `Expansion.divisor_eq_zero_iff` — when a score is divided by zero
* `Expansion.scoreTerms_missing` — when documents that lack the field leave the best terms alone

## Design Notes

**Smoothing gives every document a share of every term.**  In a document that lacks the field no
word occurs, and its length is zero.  What remains of the smoothed probability is the share of the
term in the collection, whatever the weight of the collection is, as long as it is not zero.  If it
is zero, nothing is divided by nothing.
-/

namespace RankedRetrieval.Expansion

variable {α : Type}

/-! ### Documents with and without the field -/

/-- Whether a document of a ranking has a field. -/
def holds (index : Index) (field : String) (doc : DocId × α) : Bool :=
  (index.termVector? doc.1 field).isSome

section Documents

variable {index : Index} {field : String}

theorem termVector?_of_not_holds {doc : DocId × α} (lacks : holds index field doc = false) :
    index.termVector? doc.1 field = none :=
  Option.isNone_iff_eq_none.1 (Option.isSome_eq_false_iff.1 lacks)

/-- No word occurs in a field that a document lacks. -/
theorem figures_of_not_holds {doc : DocId × α} (lacks : holds index field doc = false)
    (term : String) :
    frequency index field term doc.1 = 0 ∧ index.fieldLength field doc.1 = 0 := by
  have no_vector := termVector?_of_not_holds lacks
  have no_tokens : index.tokens? field doc.1 = none := Option.map_eq_none_iff.1 no_vector
  rw [frequency, no_vector, Index.fieldLength, no_tokens]
  exact ⟨rfl, rfl⟩

/-- Documents that lack the field bring no candidates. -/
theorem candidates_filter_holds (docs : List (DocId × α)) :
    candidates index field ((docs.filter (holds index field)).map Prod.fst) =
      candidates index field (docs.map Prod.fst) := by
  have same_stems : ((docs.filter (holds index field)).map Prod.fst).flatMap
      (stemsOf index field) = (docs.map Prod.fst).flatMap (stemsOf index field) := by
    induction docs with
    | nil => rfl
    | cons doc docs ih =>
      cases has_field : holds index field doc with
      | true => simp [has_field, ih]
      | false =>
        have no_stems : stemsOf index field doc.1 = [] := by
          rw [stemsOf, termVector?_of_not_holds has_field]
          rfl
        simp [has_field, ih, no_stems]
  rw [candidates, candidates, same_stems]

end Documents

section Drafts

variable {drafts : List Draft} {field : String}

/-- A field that a document has is not empty. -/
theorem fieldLength_pos {doc : DocId} {v : TermVector}
    (found : (Index.ofDrafts drafts).termVector? doc field = some v) :
    0 < (Index.ofDrafts drafts).fieldLength field doc := by
  obtain ⟨draft, a, given, analysed, -⟩ := Index.exists_analysis_of_termVector? found
  obtain ⟨-, some_words⟩ := Option.filter_eq_some_iff.1 analysed
  rw [Index.fieldLength_ofDrafts, given, Option.bind_some, analysed]
  exact Nat.pos_of_ne_zero (of_decide_eq_true some_words)

theorem fieldLength_eq_zero_iff {doc : DocId × α} :
    (Index.ofDrafts drafts).fieldLength field doc.1 = 0 ↔
      holds (Index.ofDrafts drafts) field doc = false := by
  constructor
  · intro no_words
    rw [holds, Option.isSome_eq_false_iff, Option.isNone_iff_eq_none]
    cases found : (Index.ofDrafts drafts).termVector? doc.1 field with
    | none => rfl
    | some v => exact absurd no_words (Nat.ne_of_gt (fieldLength_pos found))
  · intro lacks
    exact (figures_of_not_holds lacks "").2

/-- A candidate occurs in the collection. -/
theorem figures_of_mem_candidates {docs : List DocId} {term : String}
    (member : term ∈ candidates (Index.ofDrafts drafts) field docs) :
    0 < (Index.ofDrafts drafts).termCollectionFreq term field ∧
      0 < (Index.ofDrafts drafts).sumFieldLengths field := by
  rw [candidates, FieldTokens.mem_distinct] at member
  obtain ⟨doc, -, listed⟩ := List.mem_flatMap.1 (List.mem_filter.1 member).1
  rw [stemsOf] at listed
  cases found : (Index.ofDrafts drafts).termVector? doc field with
  | none => simp [found] at listed
  | some v =>
    rw [found] at listed
    obtain ⟨s, held, rfl⟩ := List.mem_map.1 listed
    constructor
    · obtain ⟨⟨posting, posted, -, -⟩, -⟩ := Index.figures_of_mem_termVector? found held
      have occurs : 0 < posting.tf :=
        List.length_pos_of_ne_nil (Index.positions_ne_nil posted)
      rw [Index.termCollectionFreq, Index.ctf_eq_sum]
      exact List.sum_pos_iff_exists_pos_nat.2 ⟨_, List.mem_map_of_mem posted, occurs⟩
    · obtain ⟨draft, -, given, -⟩ := Index.exists_analysis_of_termVector? found
      have within : doc < drafts.length := (List.getElem?_eq_some_iff.1 given).1
      rw [Index.sumFieldLengths_ofDrafts]
      exact List.sum_pos_iff_exists_pos_nat.2 ⟨_,
        List.mem_map_of_mem (List.mem_range.2 within), fieldLength_pos found⟩

end Drafts

/-! ### Scores of terms -/

variable [Scalar α]

/-- The share of a term among the words of a field. -/
def background (index : Index) (field term : String) : α :=
  Scalar.ofNat (index.termCollectionFreq term field) / Scalar.ofNat (index.sumFieldLengths field)

/-- The weight of a term, which is the greater the smaller its share is. -/
def rarity (index : Index) (field term : String) : α :=
  Scalar.ln (Scalar.ofNat 1 / background index field term)

/-- The scores of the documents that lack a field. -/
def surplus (index : Index) (field : String) (docs : List (DocId × α)) : α :=
  Scalar.total ((docs.filter fun doc => !holds index field doc).map Prod.snd)

/-- The best of some terms by their scores. -/
def bestTerms (score : String → α) (count : Nat) (terms : List String) : List (String × α) :=
  ((terms.map fun term => (term, score term)).mergeSort precedes).take count

theorem contribution_eq (index : Index) (mu : α) (field term : String) (doc : DocId × α) :
    contribution index mu field term doc =
      (Scalar.ofNat (frequency index field term doc.1) + mu * background index field term) /
        (Scalar.ofNat (index.fieldLength field doc.1) + mu) * doc.2 * rarity index field term :=
  rfl

theorem scoreTerms_eq (index : Index) (ranking : List (DocId × α)) (p : FeedbackParameters α)
    (field : String) :
    scoreTerms index ranking p field =
      bestTerms (termScore index p.mu field (ranking.take p.docs)) p.terms
        (candidates index field ((ranking.take p.docs).map Prod.fst)) := rfl

/-- The best terms of the documents with the field are chosen from the same candidates. -/
theorem scoreTerms_filter_holds (index : Index) (ranking : List (DocId × α))
    (p : FeedbackParameters α) (field : String) :
    scoreTerms index ((ranking.take p.docs).filter (holds index field)) p field =
      bestTerms (termScore index p.mu field ((ranking.take p.docs).filter (holds index field)))
        p.terms (candidates index field ((ranking.take p.docs).map Prod.fst)) := by
  have all_taken : ((ranking.take p.docs).filter (holds index field)).take p.docs =
      (ranking.take p.docs).filter (holds index field) := by
    refine List.take_of_length_le (Nat.le_trans (List.length_filter_le _ _) ?_)
    exact List.length_take_le _ _
  rw [scoreTerms_eq, all_taken, candidates_filter_holds]

/-- Terms that are scored in the same way are the same best terms. -/
theorem bestTerms_congr {score other : String → α} {count : Nat} {terms : List String}
    (same : ∀ term ∈ terms, score term = other term) :
    bestTerms score count terms = bestTerms other count terms := by
  have scored : (terms.map fun term => (term, score term)) =
      terms.map fun term => (term, other term) := by
    refine List.map_congr_left ?_
    intro term member
    rw [same term member]
  rw [bestTerms, bestTerms, scored]

/-- Nothing changes if all documents have the field, or if none has it and there is no candidate. -/
theorem scoreTerms_of_uniform {index : Index} {ranking : List (DocId × α)}
    {p : FeedbackParameters α} {field : String}
    (uniform : (∀ doc ∈ ranking.take p.docs, holds index field doc = true) ∨
      ∀ doc ∈ ranking.take p.docs, holds index field doc = false) :
    scoreTerms index ranking p field =
      scoreTerms index ((ranking.take p.docs).filter (holds index field)) p field := by
  rw [scoreTerms_filter_holds, scoreTerms_eq]
  rcases uniform with all | none
  · rw [List.filter_eq_self.2 all]
  · have no_docs : (ranking.take p.docs).filter (holds index field) = [] := by
      refine List.filter_eq_nil_iff.2 ?_
      intro doc member
      simp [none doc member]
    have no_stems : candidates index field ((ranking.take p.docs).map Prod.fst) = [] := by
      rw [← candidates_filter_holds, no_docs]
      rfl
    rw [no_stems]
    rfl

/-- A single candidate is the best term. -/
theorem scoreTerms_single {index : Index} {ranking : List (DocId × α)} {p : FeedbackParameters α}
    {field term : String}
    (found : candidates index field ((ranking.take p.docs).map Prod.fst) = [term])
    (some_terms : 0 < p.terms) :
    scoreTerms index ranking p field =
      [(term, termScore index p.mu field (ranking.take p.docs) term)] := by
  rw [scoreTerms_eq, found, bestTerms, List.map_singleton, List.mergeSort_singleton,
    List.take_of_length_le some_terms]

section Exact

variable [Scalar.ExactFractions α] {index : Index} {field : String} {mu : α}

/-- Smoothing gives a document that lacks the field the share of the term in the collection. -/
theorem contribution_of_missing {doc : DocId × α} (lacks : holds index field doc = false)
    (some_mu : mu ≠ Scalar.ofNat 0) (term : String) :
    contribution index mu field term doc =
      background index field term * doc.2 * rarity index field term := by
  obtain ⟨no_occurrence, no_words⟩ := figures_of_not_holds lacks term
  rw [contribution_eq, no_occurrence, no_words, Scalar.ExactSums.zero_add,
    Scalar.ExactSums.zero_add, Scalar.ExactFractions.mul_div_cancel _ some_mu]

/-- The score of a term exceeds that over the documents with the field by its share of the scores
of the other documents. -/
theorem termScore_eq (docs : List (DocId × α)) (some_mu : mu ≠ Scalar.ofNat 0) (term : String) :
    termScore index mu field docs term =
      termScore index mu field (docs.filter (holds index field)) term +
        background index field term * surplus index field docs * rarity index field term := by
  have split := List.filter_append_perm (holds index field) docs
  have rest : Scalar.total ((docs.filter fun doc => !holds index field doc).map
      (contribution index mu field term)) =
        background index field term * surplus index field docs * rarity index field term := by
    have shares : (docs.filter fun doc => !holds index field doc).map
        (contribution index mu field term) =
          (docs.filter fun doc => !holds index field doc).map fun doc =>
            doc.2 * (background index field term * rarity index field term) := by
      refine List.map_congr_left ?_
      intro doc member
      have lacks : holds index field doc = false := by simpa using (List.mem_filter.1 member).2
      rw [contribution_of_missing lacks some_mu, Scalar.ExactArithmetic.mul_comm _ doc.2,
        Scalar.ExactArithmetic.mul_assoc]
    rw [shares, Scalar.total_map_mul, ← surplus, Scalar.ExactArithmetic.mul_comm _ (surplus _ _ _),
      Scalar.ExactArithmetic.mul_assoc]
  rw [termScore, termScore, Scalar.sum_eq_total, Scalar.sum_eq_total,
    ← Scalar.total_perm (split.map _), List.map_append, Scalar.total_append, rest]

/-- A divisor is zero exactly if the collection has no weight and the document lacks the field. -/
theorem divisor_eq_zero_iff {drafts : List Draft}
    (nonneg : Scalar.atMost (Scalar.ofNat 0) mu = true) (doc : DocId × α) :
    Scalar.ofNat ((Index.ofDrafts drafts).fieldLength field doc.1) + mu = Scalar.ofNat 0 ↔
      mu = Scalar.ofNat 0 ∧ holds (Index.ofDrafts drafts) field doc = false := by
  rw [← fieldLength_eq_zero_iff]
  constructor
  · intro vanishes
    exact (Scalar.ExactFractions.eq_zero_of_add nonneg vanishes).symm
  · rintro ⟨rfl, no_words⟩
    rw [no_words, Scalar.ExactSums.zero_add]

variable (index field) in
/-- Documents that lack the field leave the best terms alone if their scores add up to nothing. -/
theorem scoreTerms_of_no_surplus (ranking : List (DocId × α)) (p : FeedbackParameters α)
    (some_mu : p.mu ≠ Scalar.ofNat 0)
    (no_surplus : surplus index field (ranking.take p.docs) = Scalar.ofNat 0) :
    scoreTerms index ranking p field =
      scoreTerms index ((ranking.take p.docs).filter (holds index field)) p field := by
  rw [scoreTerms_filter_holds, scoreTerms_eq]
  refine bestTerms_congr ?_
  intro term _
  rw [termScore_eq _ some_mu, no_surplus, Scalar.mul_ofNat_zero, Scalar.ExactFractions.zero_mul,
    Scalar.add_ofNat_zero]

/-- What a candidate is divided by is not zero, apart from the length of a field that is lacking. -/
theorem background_ne_zero {drafts : List Draft} {docs : List DocId} {term : String}
    (member : term ∈ candidates (Index.ofDrafts drafts) field docs) :
    (Scalar.ofNat ((Index.ofDrafts drafts).sumFieldLengths field) : α) ≠ Scalar.ofNat 0 ∧
      (background (Index.ofDrafts drafts) field term : α) ≠ Scalar.ofNat 0 := by
  obtain ⟨occurs, some_words⟩ := figures_of_mem_candidates member
  have some_length := Scalar.ExactFractions.ofNat_ne_zero (α := α) some_words
  have some_occurrence := Scalar.ExactFractions.ofNat_ne_zero (α := α) occurs
  exact ⟨some_length, Scalar.ExactFractions.div_ne_zero some_occurrence some_length⟩

/-- Documents that lack the field add to the score of every candidate its share of their scores.
So the best terms are those of the documents with the field if these scores add up to nothing, or
if all documents have the field, or none.  A divisor is zero exactly where a document lacks the
field and the collection has no weight. -/
theorem scoreTerms_missing (drafts : List Draft) (ranking : List (DocId × α))
    (p : FeedbackParameters α) (field : String)
    (nonneg : Scalar.atMost (Scalar.ofNat 0) p.mu = true) :
    let index := Index.ofDrafts drafts
    let best := ranking.take p.docs
    let held := best.filter (holds index field)
    let stems := candidates index field (best.map Prod.fst)
    (p.mu ≠ Scalar.ofNat 0 → scoreTerms index ranking p field =
      bestTerms (fun term => termScore index p.mu field held term +
        background index field term * surplus index field best * rarity index field term)
          p.terms stems) ∧
    (p.mu ≠ Scalar.ofNat 0 → surplus index field best = Scalar.ofNat 0 →
      scoreTerms index ranking p field = scoreTerms index held p field) ∧
    ((∀ doc ∈ best, holds index field doc = true) ∨ (∀ doc ∈ best, holds index field doc = false) →
      scoreTerms index ranking p field = scoreTerms index held p field) ∧
    ∀ term ∈ stems, (Scalar.ofNat (index.sumFieldLengths field) : α) ≠ Scalar.ofNat 0 ∧
      (background index field term : α) ≠ Scalar.ofNat 0 ∧
      ∀ doc ∈ best, Scalar.ofNat (index.fieldLength field doc.1) + p.mu = Scalar.ofNat 0 ↔
        p.mu = Scalar.ofNat 0 ∧ holds index field doc = false := by
  intro index best held stems
  refine ⟨?_, scoreTerms_of_no_surplus index field ranking p, scoreTerms_of_uniform, ?_⟩
  · intro some_mu
    rw [scoreTerms_eq]
    refine bestTerms_congr ?_
    intro term _
    exact termScore_eq best some_mu term
  · intro term member
    obtain ⟨some_length, some_share⟩ := background_ne_zero (α := α) member
    refine ⟨some_length, some_share, ?_⟩
    intro doc _
    exact divisor_eq_zero_iff nonneg doc

end Exact

/-! ### Real scores -/

/-- The first and the last document have keywords, the one between them has none. -/
def partlyHeld : List Draft :=
  [⟨"d0", [.setField "keywords" "alpha"]⟩, ⟨"d1", [.setField "body" "gamma"]⟩,
    ⟨"d2", [.setField "keywords" "beta"]⟩]

theorem holds_partlyHeld (x : ℝ) :
    holds (Index.ofDrafts partlyHeld) "keywords" (0, x) = true ∧
      holds (Index.ofDrafts partlyHeld) "keywords" (1, x) = false := by
  have first : ((Index.ofDrafts partlyHeld).termVector? 0 "keywords").isSome = true := by
    decide +kernel
  have second : ((Index.ofDrafts partlyHeld).termVector? 1 "keywords").isSome = false := by
    decide +kernel
  exact ⟨first, second⟩

/-- The score of a document that lacks the field does not matter if it is zero. -/
theorem scoreTerms_missing_zero :
    let p : FeedbackParameters ℝ := ⟨10, 10, 1, 1 / 2⟩
    Scalar.atMost (Scalar.ofNat 0) p.mu = true ∧
      scoreTerms (Index.ofDrafts partlyHeld) [(0, 1), (1, 0)] p "keywords" =
        scoreTerms (Index.ofDrafts partlyHeld) [(0, 1)] p "keywords" := by
  intro p
  have nonneg : Scalar.atMost (Scalar.ofNat 0) p.mu = true := by
    simp [Scalar.atMost, Scalar.ofNat_real, p]
  have some_mu : p.mu ≠ Scalar.ofNat 0 := by
    simp [Scalar.ofNat_real, p]
  have held : [(0, 1), (1, 0)].filter (holds (Index.ofDrafts partlyHeld) "keywords") =
      [((0 : DocId), (1 : ℝ))] := by
    simp [holds_partlyHeld]
  have no_surplus : surplus (Index.ofDrafts partlyHeld) "keywords" [(0, (1 : ℝ)), (1, 0)] =
      Scalar.ofNat 0 := by
    simp [surplus, holds_partlyHeld, Scalar.total, Scalar.ofNat_real]
  obtain ⟨-, same, -⟩ := scoreTerms_missing partlyHeld [(0, 1), (1, 0)] p "keywords" nonneg
  have equal := same some_mu no_surplus
  rw [← held]
  exact ⟨nonneg, equal⟩

/-- The contribution of a document over the real numbers, as it is written on paper. -/
theorem contribution_real {index : Index} {field term : String} {doc : DocId} {mu x : ℝ}
    (tf ctf total length : Nat)
    (figures : frequency index field term doc = tf ∧ index.termCollectionFreq term field = ctf ∧
      index.sumFieldLengths field = total ∧ index.fieldLength field doc = length) :
    contribution index mu field term (doc, x) =
      (tf + mu * (ctf / total)) / (length + mu) * x * Real.log (1 / (ctf / total)) := by
  obtain ⟨rfl, rfl, rfl, rfl⟩ := figures
  rw [contribution_eq, rarity, background]
  simp only [Scalar.ofNat_real, Nat.cast_one]
  rfl

/-- A document that lacks the field changes the score of a term.  Without a weight of the
collection, its contribution is divided by zero. -/
theorem scoreTerms_missing_ne :
    let index := Index.ofDrafts partlyHeld
    let p : FeedbackParameters ℝ := ⟨10, 10, 1, 1 / 2⟩
    [(0, (1 : ℝ)), (1, 1)].filter (holds index "keywords") = [(0, 1)] ∧
      scoreTerms index [(0, 1), (1, 1)] p "keywords" ≠ scoreTerms index [(0, 1)] p "keywords" ∧
      (Scalar.ofNat (index.fieldLength "keywords" 1) + 0 : ℝ) = 0 := by
  intro index p
  have held : [(0, (1 : ℝ)), (1, 1)].filter (holds index "keywords") = [(0, 1)] := by
    simp [index, holds_partlyHeld]
  have both : candidates index "keywords" [0, 1] = ["alpha"] := by decide +kernel
  have alone : candidates index "keywords" [0] = ["alpha"] := by decide +kernel
  have first : contribution index 1 "keywords" "alpha" (0, (1 : ℝ)) = 3 / 4 * Real.log 2 := by
    rw [contribution_real 1 1 2 1 (by decide +kernel)]
    norm_num
  have second : contribution index 1 "keywords" "alpha" (1, (1 : ℝ)) = 1 / 2 * Real.log 2 := by
    rw [contribution_real 0 1 2 0 (by decide +kernel)]
    norm_num
  have score_both : termScore index p.mu "keywords" [(0, 1), (1, 1)] "alpha" =
      3 / 4 * Real.log 2 + 1 / 2 * Real.log 2 := by
    show Scalar.sum [contribution index 1 "keywords" "alpha" (0, (1 : ℝ)),
      contribution index 1 "keywords" "alpha" (1, (1 : ℝ))] = _
    rw [first, second, Scalar.sum_eq_total, Scalar.total_cons, Scalar.total_cons, Scalar.total_nil,
      Scalar.add_ofNat_zero]
  have score_alone : termScore index p.mu "keywords" [(0, 1)] "alpha" = 3 / 4 * Real.log 2 := by
    show Scalar.sum [contribution index 1 "keywords" "alpha" (0, (1 : ℝ))] = _
    rw [first, Scalar.sum_eq_total, Scalar.total_cons, Scalar.total_nil, Scalar.add_ofNat_zero]
  have no_words : index.fieldLength "keywords" 1 = 0 := by decide +kernel
  refine ⟨held, ?_, ?_⟩
  · intro same
    rw [scoreTerms_single both (by decide), scoreTerms_single alone (by decide)] at same
    have same_score : 3 / 4 * Real.log 2 + 1 / 2 * Real.log 2 = 3 / 4 * Real.log 2 :=
      score_both.symm.trans ((Prod.mk.inj (List.cons.inj same).1).2.trans score_alone)
    have positive := Real.log_pos one_lt_two
    linarith
  · simp [no_words, Scalar.ofNat_real]

end RankedRetrieval.Expansion
