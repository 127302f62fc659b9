import RankedRetrieval.Proofs.Exact.Numbers
import RankedRetrieval.Proofs.Scoring.Growth
import RankedRetrieval.Proofs.Scoring.Standing

/-!
# Term scores in exact arithmetic

The figures that a posting of a usable list is scored with are those of a document that has words
in the field.  With them BM25 divides by nothing that is zero.  Smoothing does so only where there
is neither a word nor a weight of the collection.

## Main Definitions

* `Index.Counted` — the figures of a posting are those of a document with words
* `Bm25.InRange`, `Indri.InRange` — parameters for which the formulas are meant
* `Bm25.Defined` — a BM25 term score that is a number and is not negative

## Main Results

* `Index.counted_of_usable` — every posting of a usable list is counted
* `Bm25.defined_of_counted` — the term score of a counted posting is defined
* `Indri.divisor_eq_zero_iff` — when smoothing divides by zero
* `Indri.termScore_nonneg`, `Indri.termScore_eq_notANumber` — a smoothed score is a number
  otherwise

## Design Notes

The figures come from merged lists as well as from those of stems; all that is asked of a list is
that it is usable.
-/

namespace RankedRetrieval

/-! ### Figures -/

namespace Index

variable {drafts : List Draft} {field : String} {doc : DocId}

/-- A field with words is one of those that are counted. -/
theorem docCount_pos (some_words : 0 < (ofDrafts drafts).fieldLength field doc) :
    0 < (ofDrafts drafts).docCount field := by
  rw [fieldLength_ofDrafts] at some_words
  cases given : drafts[doc]? with
  | none => simp [given] at some_words
  | some draft =>
    cases analysed : draft.analysis? field with
    | none => simp [given, analysed] at some_words
    | some a =>
      rw [docCount_ofDrafts]
      exact List.countP_pos_iff.2 ⟨draft, List.mem_of_getElem? given, by rw [analysed]; rfl⟩

/-- A field of a document that has words is counted among the words of all documents. -/
theorem sumFieldLengths_pos (some_words : 0 < (ofDrafts drafts).fieldLength field doc) :
    0 < (ofDrafts drafts).sumFieldLengths field := by
  have within : doc < drafts.length := by
    by_contra outside
    rw [fieldLength_ofDrafts, List.getElem?_eq_none (Nat.le_of_not_lt outside)] at some_words
    simp at some_words
  rw [sumFieldLengths_ofDrafts]
  exact List.sum_pos_iff_exists_pos_nat.2
    ⟨_, List.mem_map_of_mem (List.mem_range.2 within), some_words⟩

/-- The figures of a posting are those of a document with words, in a list that stands for a
query once or more often. -/
structure Counted (index : Index) (list : InvertedList) (qtf : Nat) (p : Posting) : Prop where
  /-- The list occurs in the document. -/
  tf_pos : 1 ≤ p.tf
  /-- The document is one of those of the list. -/
  df_pos : 1 ≤ list.df
  /-- These are documents of the index. -/
  df_le : list.df ≤ index.numDocs
  /-- A document has words in the field. -/
  docCount_pos : 1 ≤ index.docCount list.field
  /-- There are words in the field. -/
  sumFieldLengths_pos : 1 ≤ index.sumFieldLengths list.field
  /-- The document has words in the field. -/
  fieldLength_pos : 1 ≤ index.fieldLength list.field p.doc
  /-- The query asks for the list. -/
  qtf_pos : 1 ≤ qtf

/-- Every posting of a usable list is counted. -/
theorem counted_of_usable {α : Type} {q : Query α} {list : InvertedList} {qtf : Nat} {p : Posting}
    (usable : q.Usable drafts list) (some_arg : 0 < qtf) (member : p ∈ list.postings) :
    (ofDrafts drafts).Counted list qtf p := by
  obtain ⟨x, hx⟩ := List.exists_mem_of_ne_nil p.positions (usable.positions_ne_nil p member)
  have some_words : 0 < (ofDrafts drafts).fieldLength list.field p.doc :=
    Nat.zero_lt_of_lt (usable.positions_lt p member x hx)
  exact {
    tf_pos := List.length_pos_of_mem hx
    df_pos := List.length_pos_of_mem member
    df_le := usable.df_le
    docCount_pos := docCount_pos some_words
    sumFieldLengths_pos := sumFieldLengths_pos some_words
    fieldLength_pos := some_words
    qtf_pos := some_arg }

end Index

open ExactNumber

variable {F : ExactFunctions}

/-! ### BM25 -/

/-- Parameters for which BM25 is meant. -/
structure Bm25.InRange {α : Type} [Scalar α] (p : Bm25 α) : Prop where
  /-- The first one is not negative. -/
  k1_nonneg : Scalar.atMost (Scalar.ofNat 0) p.k1 = true
  /-- The second one is not negative. -/
  b_nonneg : Scalar.atMost (Scalar.ofNat 0) p.b = true
  /-- The second one is at most one. -/
  b_le_one : Scalar.atMost p.b (Scalar.ofNat 1) = true
  /-- The third one is not negative. -/
  k3_nonneg : Scalar.atMost (Scalar.ofNat 0) p.k3 = true

/-- The weight of a term that is held by some documents, and by no more than there are. -/
theorem rsjWeight_nonneg (logs : F.LogExists) {df n : Nat} (within : df ≤ n) :
    (rsjWeight (Scalar.ofNat df) (Scalar.ofNat n) : ExactNumber F).Nonneg := by
  have others : (0 : ℝ) < (n : ℝ) - df + 1 / 2 := by
    have : (df : ℝ) ≤ n := Nat.cast_le.2 within
    linarith
  have held : (0 : ℝ) < (df : ℝ) + 1 / 2 := by positivity
  obtain ⟨x, hx⟩ := logs _ others
  obtain ⟨y, hy⟩ := logs _ held
  refine ⟨max (x - y) 0, le_max_right _ _, ?_⟩
  rw [rsjWeight, ofNat_eq, ofNat_eq, ofNat_eq, half_eq, number_sub, number_add, number_add,
    ln_number, ln_number, hx, hy]
  simp [ofOption]

namespace Bm25

/-- What the frequency of a term is divided by. -/
def saturation {α : Type} [Scalar α] (p : Bm25 α) (tf docLength averageLength : α) : α :=
  tf + p.k1 * ((Scalar.ofNat 1 - p.b) + p.b * docLength / averageLength)

/-- A BM25 term score that is a number: nothing on the way to it is divided by zero, and both
logarithms are those of positive numbers. -/
structure Defined (index : Index) (p : Bm25 (ExactNumber F)) (list : InvertedList) (qtf : Nat)
    (posting : Posting) : Prop where
  /-- There is an average length. -/
  docCount_ne_zero : (Scalar.ofNat (index.docCount list.field) : ExactNumber F) ≠ number 0
  /-- The average length is not zero. -/
  averageLength_ne_zero :
    (Scalar.ofNat (index.sumFieldLengths list.field) / Scalar.ofNat (index.docCount list.field) :
      ExactNumber F) ≠ number 0
  /-- What the frequency in the document is divided by is not zero. -/
  saturation_ne_zero : p.saturation (Scalar.ofNat posting.tf)
    (Scalar.ofNat (index.fieldLength list.field posting.doc))
    (Scalar.ofNat (index.sumFieldLengths list.field) /
      Scalar.ofNat (index.docCount list.field)) ≠ number 0
  /-- What the frequency in the query is divided by is not zero. -/
  user_ne_zero : p.k3 + Scalar.ofNat qtf ≠ number 0
  /-- The logarithm of the documents without the term is that of at least a half. -/
  others_atLeast : Scalar.atMost (0.5 : ExactNumber F)
    (Scalar.ofNat index.numDocs - Scalar.ofNat list.df + 0.5) = true
  /-- The logarithm of the documents with the term is that of at least a half. -/
  held_atLeast : Scalar.atMost (0.5 : ExactNumber F) (Scalar.ofNat list.df + 0.5) = true
  /-- The score is a number and is not negative. -/
  score_nonneg : ∃ s : ExactNumber F,
    ScoringTree.postingScore index (.bm25 p) list qtf posting = .ok s ∧ s.Nonneg

section Range

variable {p : Bm25 (ExactNumber F)}

/-- The usual parameters are in range. -/
theorem inRange_default : (Bm25.default : Bm25 (ExactNumber F)).InRange where
  k1_nonneg := (atMost_number _ _).2 (by norm_num)
  b_nonneg := (atMost_number _ _).2 (by norm_num)
  b_le_one := (atMost_number _ _).2 (by norm_num)
  k3_nonneg := (atMost_number _ _).2 le_rfl

theorem InRange.one_sub_b_nonneg (range : p.InRange) : (Scalar.ofNat 1 - p.b).Nonneg := by
  obtain ⟨b, -, b_eq⟩ := nonneg_iff_atMost.2 range.b_nonneg
  have b_le_one := range.b_le_one
  rw [b_eq, ofNat_eq, atMost_number] at b_le_one
  exact ⟨_, sub_nonneg.2 b_le_one, by rw [b_eq]; rfl⟩

/-- The frequency is divided by no less than itself. -/
theorem saturation_positive (range : p.InRange) {tf : Nat} (some_tf : 0 < tf) (docLength : Nat)
    {averageLength : ExactNumber F} (some_length : averageLength.Positive) :
    (p.saturation (Scalar.ofNat tf) (Scalar.ofNat docLength) averageLength).Positive := by
  have b_nonneg := nonneg_iff_atMost.2 range.b_nonneg
  have lengths := (b_nonneg.mul (nonneg_ofNat docLength)).div some_length.nonneg some_length.ne_zero
  have k1_nonneg := nonneg_iff_atMost.2 range.k1_nonneg
  exact (positive_ofNat some_tf).add (k1_nonneg.mul (range.one_sub_b_nonneg.add lengths))

theorem user_positive (range : p.InRange) {qtf : Nat} (some_arg : 0 < qtf) :
    (p.k3 + Scalar.ofNat qtf).Positive := by
  rw [Scalar.ExactSums.add_comm]
  exact (positive_ofNat some_arg).add (nonneg_iff_atMost.2 range.k3_nonneg)

/-- The term score of a counted posting is defined. -/
theorem defined_of_counted (logs : F.LogExists) (range : p.InRange) {index : Index}
    {list : InvertedList} {qtf : Nat} {posting : Posting}
    (counted : index.Counted list qtf posting) : Defined index p list qtf posting := by
  have documents : (Scalar.ofNat (index.docCount list.field) : ExactNumber F).Positive :=
    positive_ofNat counted.docCount_pos
  have average := (positive_ofNat (F := F) counted.sumFieldLengths_pos).div documents
  have saturation := saturation_positive range counted.tf_pos
    (index.fieldLength list.field posting.doc) average
  have user := user_positive range counted.qtf_pos
  have k3_nonneg := nonneg_iff_atMost.2 range.k3_nonneg
  have within : (list.df : ℝ) ≤ index.numDocs := Nat.cast_le.2 counted.df_le
  refine {
    docCount_ne_zero := documents.ne_zero
    averageLength_ne_zero := average.ne_zero
    saturation_ne_zero := saturation.ne_zero
    user_ne_zero := user.ne_zero
    others_atLeast := ?_
    held_atLeast := ?_
    score_nonneg := ⟨_, rfl, ?_⟩ }
  · rw [half_eq, ofNat_eq, ofNat_eq, number_sub, number_add, atMost_number]
    linarith
  · rw [half_eq, ofNat_eq, number_add, atMost_number]
    linarith [Nat.cast_nonneg (α := ℝ) list.df]
  · have weight := rsjWeight_nonneg logs counted.df_le
    have frequency := (nonneg_ofNat (F := F) posting.tf).div saturation.nonneg saturation.ne_zero
    have query := ((k3_nonneg.add (nonneg_ofNat 1)).mul (nonneg_ofNat qtf)).div user.nonneg
      user.ne_zero
    exact (weight.mul frequency).mul query

end Range

end Bm25

/-! ### Smoothing -/

/-- Parameters for which two-stage smoothing is meant. -/
structure Indri.InRange {α : Type} [Scalar α] (p : Indri α) : Prop where
  /-- The first one is not negative. -/
  mu_nonneg : Scalar.atMost (Scalar.ofNat 0) p.mu = true
  /-- The second one is not negative. -/
  lambda_nonneg : Scalar.atMost (Scalar.ofNat 0) p.lambda = true
  /-- The second one is at most one. -/
  lambda_le_one : Scalar.atMost p.lambda (Scalar.ofNat 1) = true

namespace Indri

variable {p : Indri (ExactNumber F)}

theorem InRange.one_sub_lambda_nonneg (range : p.InRange) :
    (Scalar.ofNat 1 - p.lambda).Nonneg := by
  obtain ⟨l, -, lambda_eq⟩ := nonneg_iff_atMost.2 range.lambda_nonneg
  have le_one := range.lambda_le_one
  rw [lambda_eq, ofNat_eq, atMost_number] at le_one
  exact ⟨_, sub_nonneg.2 le_one, by rw [lambda_eq]; rfl⟩

/-- The usual parameters are in range. -/
theorem inRange_default : (Indri.default : Indri (ExactNumber F)).InRange where
  mu_nonneg := (atMost_number _ _).2 (Nat.cast_le.2 (Nat.zero_le 2500))
  lambda_nonneg := (atMost_number _ _).2 (by norm_num)
  lambda_le_one := (atMost_number _ _).2 (by norm_num)

/-- Smoothing divides by zero where there is neither a word nor a weight of the collection. -/
theorem divisor_eq_zero_iff (range : p.InRange) {docLength : Nat} :
    Scalar.ofNat docLength + p.mu = number 0 ↔ p.mu = number 0 ∧ docLength = 0 := by
  obtain ⟨m, nonneg, mu_eq⟩ := nonneg_iff_atMost.2 range.mu_nonneg
  rw [mu_eq, ofNat_eq, number_add, number.injEq, number.injEq,
    add_eq_zero_iff_of_nonneg (Nat.cast_nonneg docLength) nonneg, Nat.cast_eq_zero, and_comm]

/-- The share of a term in the collection is only asked for where the collection has words. -/
theorem background_nonneg (ctf total : Nat) :
    (if Scalar.less (Scalar.ofNat 0 : ExactNumber F) (Scalar.ofNat total) then
      (Scalar.ofNat ctf : ExactNumber F) / Scalar.ofNat total else Scalar.ofNat 0).Nonneg := by
  split
  · rename_i some_words
    rw [ofNat_eq, ofNat_eq, less_number, Nat.cast_lt] at some_words
    exact (nonneg_ofNat ctf).div (nonneg_ofNat total) (positive_ofNat some_words).ne_zero
  · exact nonneg_ofNat 0

/-- A smoothed score is not negative, if nothing is divided by zero. -/
theorem termScore_nonneg (range : p.InRange) (tf ctf total : Nat) {docLength : Nat}
    (divisor : Scalar.ofNat docLength + p.mu ≠ number 0) :
    (p.termScore (Scalar.ofNat tf) (Scalar.ofNat ctf) (Scalar.ofNat total)
      (Scalar.ofNat docLength)).Nonneg := by
  have mu_nonneg := nonneg_iff_atMost.2 range.mu_nonneg
  have lambda_nonneg := nonneg_iff_atMost.2 range.lambda_nonneg
  have background := background_nonneg (F := F) ctf total
  have bayesian := ((nonneg_ofNat tf).add (mu_nonneg.mul background)).div
    ((nonneg_ofNat docLength).add mu_nonneg) divisor
  exact (range.one_sub_lambda_nonneg.mul bayesian).add (lambda_nonneg.mul background)

/-- A smoothed score of which the divisor is zero is not a number. -/
theorem termScore_eq_notANumber {tf ctf total docLength : ExactNumber F}
    (divisor : docLength + p.mu = number 0) :
    p.termScore tf ctf total docLength = notANumber := by
  rw [termScore, divisor, div_zero]
  show lift _ (lift _ _ notANumber) _ = notANumber
  rw [lift_notANumber, notANumber_lift]

end Indri

end RankedRetrieval
