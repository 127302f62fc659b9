import RankedRetrieval.Proofs.Features.Scaling
import RankedRetrieval.Proofs.Run.FirstPass

/-!
# Features that are left out

To disable a feature is to leave its entries out of the feature lines; everything else in the lines
stays as it is.

## Main Definitions

* `FeatureLine` — a feature line, entry by entry
* `FeatureLine.without` — a line without the entries of some features
* `LearningRun.featureLines` — the feature lines that are written for documents of a query

## Main Results

* `FeatureRow.text_eq` — a row is written as its line without the disabled features
* `LearningRun.featureRows_eq` — the rows, cell by cell
* `LearningRun.featureLines_leavingOut` — the lines under two lists of disabled features

## Design Notes

A disabled feature goes through three stages.  Its column is empty when the features are extracted,
and for this reason zero when they are scaled; only the writer leaves the zeros out.  The columns of
the other features are the same in every stage.
-/

namespace RankedRetrieval

/-- A feature line, entry by entry. -/
structure FeatureLine where
  /-- The relevance of the document to the query. -/
  relevance : Int
  /-- The number of the query. -/
  qid : String
  /-- The name of the document. -/
  externalId : String
  /-- The numbers of features with the texts of their values. -/
  entries : List (Nat × String)

namespace FeatureLine

/-- The text of an entry. -/
def entryText (entry : Nat × String) : String :=
  " " ++ Nat.repr entry.1 ++ ":" ++ entry.2

/-- The text of a line. -/
def text (line : FeatureLine) : String :=
  line.relevance.repr ++ " qid:" ++ line.qid ++ String.join (line.entries.map entryText)
    ++ " # " ++ line.externalId ++ "\n"

/-- A line without the entries of some features. -/
def without (numbers : List Nat) (line : FeatureLine) : FeatureLine :=
  { line with entries := line.entries.filter fun entry => !numbers.contains entry.1 }

theorem without_without {numbers more : List Nat} (within : numbers ⊆ more) (line : FeatureLine) :
    (line.without numbers).without more = line.without more := by
  rw [without, without, without, List.filter_filter]
  congr 1
  apply List.filter_congr
  intro entry _
  have hidden : numbers.contains entry.1 = true → more.contains entry.1 = true := by
    simpa using fun member => within member
  cases contained : numbers.contains entry.1
  · rw [Bool.not_false, Bool.and_true]
  · rw [hidden contained, Bool.not_true, Bool.and_self]

end FeatureLine

/-! ### Numbered features -/

namespace FeatureVector

variable {α : Type} [Numeral α]

/-- The features that are present, numbered from a number on. -/
def numbered (first : Nat) (features : FeatureVector α) : List (Nat × String) :=
  (features.zipIdx first).filterMap fun cell => cell.1.map fun v => (cell.2, Numeral.text v)

theorem numbered_cons (first : Nat) (cell : Option α) (features : FeatureVector α) :
    numbered first (cell :: features) =
      (cell.map fun v => (first, Numeral.text v)).toList ++ numbered (first + 1) features := by
  cases cell <;> rfl

theorem numbered_increasing (first : Nat) (features : FeatureVector α) :
    (numbered first features).Pairwise fun entry other => entry.1 < other.1 := by
  have places : (features.zipIdx first).Pairwise fun cell other => cell.2 < other.2 := by
    rw [← List.pairwise_map (f := Prod.snd), List.zipIdx_map_snd]
    exact List.pairwise_lt_range'
  refine places.filterMap _ ?_
  rintro ⟨cell, n⟩ ⟨other, m⟩ less entry present entry' present'
  obtain ⟨v, -, rfl⟩ := Option.map_eq_some_iff.1 present
  obtain ⟨w, -, rfl⟩ := Option.map_eq_some_iff.1 present'
  exact less

/-- Entries that are left out may come from cells of any kind. -/
theorem filter_numbered_congr {β : Type} {hidden : List Nat} {first : Nat} {xs : List β}
    {f g : Nat → β → Option α} (agree : ∀ i x, first + i ∉ hidden → f i x = g i x) :
    (numbered first (xs.mapIdx f)).filter (fun entry => !hidden.contains entry.1) =
      (numbered first (xs.mapIdx g)).filter fun entry => !hidden.contains entry.1 := by
  induction xs generalizing first f g with
  | nil => rfl
  | cons x xs ih =>
    have others : ∀ i x, first + 1 + i ∉ hidden → f (i + 1) x = g (i + 1) x := by
      intro i x shown
      apply agree
      rwa [Nat.add_right_comm] at shown
    rw [List.mapIdx_cons, List.mapIdx_cons, numbered_cons, numbered_cons, List.filter_append,
      List.filter_append, ih others]
    congr 1
    by_cases shown : first ∈ hidden
    · cases f 0 x <;> cases g 0 x <;> simp [shown]
    · rw [agree 0 x shown]

end FeatureVector

namespace FeatureRow

variable {α : Type} [Numeral α]

/-- The line of a row, with all features that are present. -/
def line (row : FeatureRow α) : FeatureLine where
  relevance := row.relevance
  qid := row.qid
  externalId := row.externalId
  entries := row.features.numbered 1

theorem entries_eq (disabled : List Nat) (first : Nat) (features : FeatureVector α) :
    entries disabled first features =
      ((features.numbered first).filter fun entry => !disabled.contains entry.1).map
        FeatureLine.entryText := by
  induction features generalizing first with
  | nil => rfl
  | cons cell features ih =>
    cases cell with
    | none => exact ih (first + 1)
    | some v =>
      rw [entries, FeatureVector.numbered_cons, Option.map_some, Option.toList_some,
        List.singleton_append, List.filter_cons, ih]
      cases disabled.contains first <;> rfl

/-- A row is written as its line without the disabled features. -/
theorem text_eq (disabled : List Nat) (row : FeatureRow α) :
    row.text disabled = (row.line.without disabled).text := by
  rw [text, entries_eq]
  rfl

/-- Rows that differ in features that are left out have the same lines. -/
theorem without_line_congr {β : Type} {hidden : List Nat} {xs : List β}
    {f g : Nat → β → Option α} (agree : ∀ i x, 1 + i ∉ hidden → f i x = g i x)
    (qid externalId : String) (relevance : Int) :
    (FeatureRow.mk qid externalId relevance (xs.mapIdx f)).line.without hidden =
      (FeatureRow.mk qid externalId relevance (xs.mapIdx g)).line.without hidden :=
  congrArg (FeatureLine.mk relevance qid externalId) (FeatureVector.filter_numbered_congr agree)

end FeatureRow

/-! ### Extracted features -/

namespace FeatureExtractor

variable {α : Type} [Scalar α]

/-- The extractor with other features left out. -/
def leavingOut (x : FeatureExtractor α) (disabled : List Nat) : FeatureExtractor α :=
  { x with disabled }

variable [Numeral α]

theorem value?_leavingOut (x : FeatureExtractor α) (disabled : List Nat) (terms : QueryTerms)
    (doc : DocId) (pageRank : Option α) :
    (x.leavingOut disabled).value? terms doc pageRank = x.value? terms doc pageRank := by
  funext feature
  cases feature <;> rfl

theorem valuesFrom_eq_mapIdx (x : FeatureExtractor α) (terms : QueryTerms) (doc : DocId)
    (pageRank : Option α) (first : Nat) (features : List Feature) :
    x.valuesFrom terms doc pageRank first features = features.mapIdx fun i feature =>
      if x.disabled.contains (first + i) then none else x.value? terms doc pageRank feature := by
  induction features generalizing first with
  | nil => rfl
  | cons feature features ih =>
    rw [valuesFrom, List.mapIdx_cons, ih]
    simp only [Nat.add_zero, Nat.add_right_comm, Nat.add_assoc]

/-- The cell of a feature of a document. -/
def cell (x : FeatureExtractor α) (disabled : List Nat) (terms : QueryTerms) (doc : DocId)
    (pageRank : Option α) (i : Nat) (feature : Feature) : Option α :=
  if disabled.contains (1 + i) then none else x.value? terms doc pageRank feature

theorem extract_leavingOut (x : FeatureExtractor α) (disabled : List Nat) (terms : QueryTerms)
    (doc : DocId) (pageRank : Option α) :
    (x.leavingOut disabled).extract terms doc pageRank =
      Feature.all.mapIdx (x.cell disabled terms doc pageRank) := by
  rw [extract, valuesFrom_eq_mapIdx, value?_leavingOut]
  rfl

theorem cell_congr {x : FeatureExtractor α} {disabled disabled' : List Nat} {i : Nat}
    (shown : 1 + i ∉ disabled) (shown' : 1 + i ∉ disabled') (terms : QueryTerms) (doc : DocId)
    (pageRank : Option α) (feature : Feature) :
    x.cell disabled terms doc pageRank i feature =
      x.cell disabled' terms doc pageRank i feature := by
  rw [cell, cell, if_neg (by simpa using shown), if_neg (by simpa using shown')]

end FeatureExtractor

/-! ### Feature lines -/

namespace LearningRun

variable {α : Type} [Scalar α] [Numeral α] {x : FeatureExtractor α} {pageRanks : Table String α}
  {qid : String} {terms : QueryTerms} {docs : List (String × Int)}

/-- The documents that are in the index, with their numbers. -/
def known (index : Index) (docs : List (String × Int)) : List ((String × Int) × DocId) :=
  docs.filterMap fun entry => (index.internalId? entry.1).map fun doc => (entry, doc)

theorem map_fst_known (index : Index) (docs : List (String × Int)) :
    (known index docs).map Prod.fst =
      docs.filter fun entry => (index.internalId? entry.1).isSome := by
  induction docs with
  | nil => rfl
  | cons entry docs ih =>
    rw [known, List.filterMap_cons, List.filter_cons]
    cases found : index.internalId? entry.1 with
    | none => exact ih
    | some doc => exact congrArg (entry :: ·) ih

/-- The extracted features of documents. -/
def extracted (x : FeatureExtractor α) (pageRanks : Table String α) (terms : QueryTerms)
    (docs : List (String × Int)) : List (FeatureVector α) :=
  (known x.index docs).map fun k => x.extract terms k.2 (pageRanks.get? k.1.1)

/-- The row of a document among the documents of a query. -/
def scaledRow (x : FeatureExtractor α) (pageRanks : Table String α) (qid : String)
    (terms : QueryTerms) (docs : List (String × Int)) (k : (String × Int) × DocId) :
    FeatureRow α where
  qid := qid
  externalId := k.1.1
  relevance := k.1.2
  features := (x.extract terms k.2 (pageRanks.get? k.1.1)).mapIdx fun n =>
    FeatureVector.scaleCell
      (FeatureVector.bounds? (FeatureVector.column (extracted x pageRanks terms docs) n))

/-- The feature rows of documents, cell by cell. -/
theorem featureRows_eq (x : FeatureExtractor α) (pageRanks : Table String α) (qid : String)
    (terms : QueryTerms) (docs : List (String × Int)) :
    featureRows x pageRanks qid terms docs =
      (known x.index docs).map (scaledRow x pageRanks qid terms docs) := by
  have rows : (docs.filterMap fun entry => (x.index.internalId? entry.1).map fun doc =>
      (entry, x.extract terms doc (pageRanks.get? entry.1))) =
      (known x.index docs).map fun k => (k.1, x.extract terms k.2 (pageRanks.get? k.1.1)) := by
    rw [known, List.map_filterMap]
    simp only [Option.map_map]
    rfl
  rw [featureRows, rows]
  simp only [List.map_map, FeatureVector.normalize_eq_mapIdx, List.zipWith_map,
    List.zipWith_self]
  rfl

/-- The feature lines that are written for documents of a query. -/
def featureLines (x : FeatureExtractor α) (pageRanks : Table String α) (qid : String)
    (terms : QueryTerms) (docs : List (String × Int)) : List FeatureLine :=
  (featureRows x pageRanks qid terms docs).map fun row => row.line.without x.disabled

/-- The columns of features that are left out by neither of two extractors are the same. -/
theorem column_extracted_leavingOut {disabled disabled' : List Nat} {n : Nat}
    (shown : 1 + n ∉ disabled ++ disabled') :
    FeatureVector.column (extracted (x.leavingOut disabled) pageRanks terms docs) n =
      FeatureVector.column (extracted (x.leavingOut disabled') pageRanks terms docs) n := by
  rw [List.mem_append, not_or] at shown
  apply FeatureVector.column_congr
  rw [FeatureVector.cells, FeatureVector.cells, extracted, extracted, List.map_map, List.map_map]
  apply List.map_congr_left
  intro k _
  show ((x.leavingOut disabled).extract _ _ _)[n]? = ((x.leavingOut disabled').extract _ _ _)[n]?
  rw [FeatureExtractor.extract_leavingOut, FeatureExtractor.extract_leavingOut,
    List.getElem?_mapIdx, List.getElem?_mapIdx]
  congr 1
  funext feature
  exact FeatureExtractor.cell_congr shown.1 shown.2 terms k.2 _ feature

/-- The lines of rows are the texts of the feature lines. -/
theorem lines_eq (x : FeatureExtractor α) (pageRanks : Table String α) (qid : String)
    (terms : QueryTerms) (docs : List (String × Int)) :
    lines x (featureRows x pageRanks qid terms docs) =
      String.join ((featureLines x pageRanks qid terms docs).map FeatureLine.text) := by
  rw [lines, featureLines, List.map_map]
  congr 2
  funext row
  exact row.text_eq x.disabled

/-- The documents of the feature lines are those of the index. -/
theorem documents_featureLines (x : FeatureExtractor α) (pageRanks : Table String α) (qid : String)
    (terms : QueryTerms) (docs : List (String × Int)) :
    (featureLines x pageRanks qid terms docs).map (fun line => (line.externalId, line.relevance)) =
      docs.filter fun entry => (x.index.internalId? entry.1).isSome := by
  rw [← map_fst_known, featureLines, featureRows_eq, List.map_map, List.map_map]
  rfl

/-- The features of a document, each as a function of its place. -/
theorem scaledRow_leavingOut (x : FeatureExtractor α) (disabled : List Nat)
    (pageRanks : Table String α) (qid : String) (terms : QueryTerms)
    (docs : List (String × Int)) (k : (String × Int) × DocId) :
    scaledRow (x.leavingOut disabled) pageRanks qid terms docs k =
      FeatureRow.mk qid k.1.1 k.1.2 (Feature.all.mapIdx fun i feature =>
        FeatureVector.scaleCell
          (FeatureVector.bounds?
            (FeatureVector.column (extracted (x.leavingOut disabled) pageRanks terms docs) i))
          (x.cell disabled terms k.2 (pageRanks.get? k.1.1) i feature)) := by
  rw [scaledRow, FeatureExtractor.extract_leavingOut]
  generalize Feature.all = features
  rw [List.mapIdx_mapIdx]
  rfl

/-- The row of a document under two lists of disabled features. -/
theorem without_scaledRow (x : FeatureExtractor α) (disabled disabled' : List Nat)
    (pageRanks : Table String α) (qid : String) (terms : QueryTerms)
    (docs : List (String × Int)) (k : (String × Int) × DocId) :
    (scaledRow (x.leavingOut disabled) pageRanks qid terms docs k).line.without
        (disabled ++ disabled') =
      (scaledRow (x.leavingOut disabled') pageRanks qid terms docs k).line.without
        (disabled ++ disabled') := by
  rw [scaledRow_leavingOut, scaledRow_leavingOut]
  apply FeatureRow.without_line_congr
  intro i feature shown
  obtain ⟨shown_first, shown_second⟩ := not_or.1 (mt List.mem_append.2 shown)
  rw [column_extracted_leavingOut shown,
    FeatureExtractor.cell_congr shown_first shown_second terms k.2 _ feature]

/-- Lines under two lists of disabled features are the same apart from these features. -/
theorem without_featureLines (x : FeatureExtractor α) (disabled disabled' : List Nat)
    (pageRanks : Table String α) (qid : String) (terms : QueryTerms)
    (docs : List (String × Int)) :
    (featureLines (x.leavingOut disabled) pageRanks qid terms docs).map
        (FeatureLine.without (disabled ++ disabled')) =
      (featureLines (x.leavingOut disabled') pageRanks qid terms docs).map
        (FeatureLine.without (disabled ++ disabled')) := by
  rw [featureLines, featureLines, featureRows_eq, featureRows_eq, List.map_map, List.map_map,
    List.map_map, List.map_map]
  apply List.map_congr_left
  intro k _
  rw [Function.comp_apply, Function.comp_apply, Function.comp_apply, Function.comp_apply]
  have first := FeatureLine.without_without (List.subset_append_left disabled disabled')
  have second := FeatureLine.without_without (List.subset_append_right disabled disabled')
  exact (first _).trans ((without_scaledRow x disabled disabled' pageRanks qid terms docs k).trans
    (second _).symm)

/-- Feature lines hold no disabled features, and their features in increasing order. -/
theorem entries_featureLines {line : FeatureLine}
    (member : line ∈ featureLines x pageRanks qid terms docs) :
    (∀ entry ∈ line.entries, entry.1 ∉ x.disabled) ∧
      line.entries.Pairwise fun entry other => entry.1 < other.1 := by
  obtain ⟨row, -, rfl⟩ := List.mem_map.1 member
  constructor
  · intro entry kept
    simpa using (List.mem_filter.1 kept).2
  · exact (row.features.numbered_increasing 1).filter _

/-- What is written for documents of a query, be it as lines or in pieces, are the texts of feature
lines.  Whatever features are disabled, these lines are for the documents of the index, in the order
in which they are given.  Under two lists of disabled features, the lines are the same apart from
the entries of these features.  No line holds an entry of a disabled feature, and the entries stand
in the order of their numbers. -/
theorem featureLines_leavingOut (x : FeatureExtractor α) (disabled disabled' : List Nat)
    (pageRanks : Table String α) (qid : String) (terms : QueryTerms)
    (docs : List (String × Int)) :
    let rows := featureRows (x.leavingOut disabled) pageRanks qid terms docs
    let under := fun hidden => featureLines (x.leavingOut hidden) pageRanks qid terms docs
    lines (x.leavingOut disabled) rows = String.join ((under disabled).map FeatureLine.text) ∧
    String.join (rows.flatMap (FeatureRow.pieces disabled)) =
      String.join ((under disabled).map FeatureLine.text) ∧
    (∀ hidden, (under hidden).map (fun line => (line.externalId, line.relevance)) =
      docs.filter fun entry => (x.index.internalId? entry.1).isSome) ∧
    (under disabled).map (FeatureLine.without (disabled ++ disabled')) =
      (under disabled').map (FeatureLine.without (disabled ++ disabled')) ∧
    (∀ line ∈ under disabled, (∀ entry ∈ line.entries, entry.1 ∉ disabled) ∧
      line.entries.Pairwise fun entry other => entry.1 < other.1) := by
  intro rows under
  have written : lines (x.leavingOut disabled) rows =
      String.join ((under disabled).map FeatureLine.text) :=
    lines_eq (x.leavingOut disabled) pageRanks qid terms docs
  refine ⟨written, ?_, ?_, ?_, ?_⟩
  · exact (join_pieces (x.leavingOut disabled) rows).trans written
  · intro hidden
    exact documents_featureLines (x.leavingOut hidden) pageRanks qid terms docs
  · exact without_featureLines x disabled disabled' pageRanks qid terms docs
  · intro line member
    exact entries_featureLines member

end LearningRun

end RankedRetrieval
