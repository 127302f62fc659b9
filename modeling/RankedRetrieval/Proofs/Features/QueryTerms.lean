import Mathlib.Data.List.Nodup
import Mathlib.Data.List.Perm.Basic
import RankedRetrieval.Features.Extraction
import RankedRetrieval.Proofs.Scoring.Folding

/-!
# Terms with their frequencies

Terms with frequencies say the same as a list that holds each term as often as its frequency
says.

## Main Definitions

* `QueryTerms.Distinct` — each term is listed once
* `QueryTerms.ListedBy` — a list that holds each term as often as its frequency says

## Main Results

* `QueryTerms.counted_perm` — counting such a list gives the terms back
* `QueryTerms.found_perm` — looking up some stems finds the terms that are among them
-/

namespace RankedRetrieval.QueryTerms

variable {terms : QueryTerms}

/-- Each term is listed once. -/
def Distinct (terms : QueryTerms) : Prop := (terms.map Prod.fst).Nodup

/-- A list that holds each term as often as its frequency says, in any order. -/
def ListedBy (terms : QueryTerms) (stems : List String) : Prop :=
  stems.Perm (terms.flatMap fun entry => List.replicate entry.2 entry.1)

/-! ### Frequencies -/

theorem frequency?_eq_some_iff (distinct : terms.Distinct) {stem : String} {q : Nat} :
    FeatureExtractor.frequency? terms stem = some q ↔ (stem, q) ∈ terms := by
  unfold Distinct at distinct
  unfold FeatureExtractor.frequency?
  induction terms with
  | nil => simp
  | cons entry terms ih =>
    obtain ⟨other, n⟩ := entry
    obtain ⟨not_later, distinct⟩ := List.nodup_cons.1 distinct
    by_cases same : other = stem
    · subst same
      have unlisted (m : Nat) : (other, m) ∉ terms := fun later =>
        not_later (List.mem_map.2 ⟨_, later, rfl⟩)
      rw [List.find?_cons_of_pos (by simp)]
      simp [unlisted, eq_comm]
    · rw [List.find?_cons_of_neg (by simpa using same), ih distinct]
      simp [Ne.symm same]

/-- A term occurs in such a list as often as its frequency says. -/
theorem count_eq (distinct : terms.Distinct) {stems : List String} (listed : terms.ListedBy stems)
    {stem : String} {q : Nat} (member : (stem, q) ∈ terms) : stems.count stem = q := by
  rw [listed.count_eq]
  unfold Distinct at distinct
  clear listed
  induction terms with
  | nil => simp at member
  | cons entry terms ih =>
    obtain ⟨other, n⟩ := entry
    obtain ⟨not_later, distinct⟩ := List.nodup_cons.1 distinct
    rw [List.flatMap_cons, List.count_append, List.count_replicate]
    rcases List.mem_cons.1 member with same | later
    · obtain ⟨rfl, rfl⟩ := Prod.mk.inj same
      have absent : stem ∉ terms.flatMap fun entry => List.replicate entry.2 entry.1 := by
        intro found
        obtain ⟨entry, hentry, held⟩ := List.mem_flatMap.1 found
        exact not_later (List.mem_map.2 ⟨entry, hentry, (List.eq_of_mem_replicate held).symm⟩)
      simp [List.count_eq_zero_of_not_mem absent]
    · have different : other ≠ stem := fun same =>
        not_later (List.mem_map.2 ⟨_, later, same.symm⟩)
      rw [if_neg (by simpa using different), Nat.zero_add]
      exact ih distinct later

theorem mem_iff_of_listedBy (positive : ∀ entry ∈ terms, 1 ≤ entry.2) {stems : List String}
    (listed : terms.ListedBy stems) {stem : String} :
    stem ∈ stems ↔ stem ∈ terms.map Prod.fst := by
  rw [listed.mem_iff, List.mem_flatMap, List.mem_map]
  constructor
  · rintro ⟨entry, member, held⟩
    exact ⟨entry, member, (List.eq_of_mem_replicate held).symm⟩
  · rintro ⟨entry, member, rfl⟩
    have some_copies : entry.2 ≠ 0 := Nat.ne_of_gt (positive entry member)
    exact ⟨entry, member, List.mem_replicate.2 ⟨some_copies, rfl⟩⟩

/-! ### Permutations -/

/-- Counting a list that holds each term as often as its frequency says gives the terms back. -/
theorem counted_perm (distinct : terms.Distinct) (positive : ∀ entry ∈ terms, 1 ≤ entry.2)
    {stems ds : List String} (listed : terms.ListedBy stems) (distinct_ds : ds.Nodup)
    (members : ∀ stem, stem ∈ ds ↔ stem ∈ stems) :
    (ds.map fun stem => (stem, stems.count stem)).Perm terms := by
  have distinct_entries : (ds.map fun stem => (stem, stems.count stem)).Nodup :=
    distinct_ds.map fun s t same => (Prod.mk.inj same).1
  refine (List.perm_ext_iff_of_nodup distinct_entries distinct.of_map).2 fun entry => ?_
  rw [List.mem_map]
  constructor
  · rintro ⟨stem, member, rfl⟩
    obtain ⟨⟨other, q⟩, hentry, rfl⟩ :=
      List.mem_map.1 ((mem_iff_of_listedBy positive listed).1 ((members stem).1 member))
    rw [count_eq distinct listed hentry]
    exact hentry
  · intro member
    refine ⟨entry.1, (members _).2 ((mem_iff_of_listedBy positive listed).2
      (List.mem_map_of_mem member)), ?_⟩
    rw [count_eq distinct listed member]

/-- Looking up distinct stems finds the terms that are among them. -/
theorem found_perm (distinct : terms.Distinct) {stems : List String}
    (distinct_stems : stems.Nodup) :
    (stems.filterMap fun stem =>
      (FeatureExtractor.frequency? terms stem).map fun q => (stem, q)).Perm
        (terms.filter fun entry => entry.1 ∈ stems) := by
  have distinct_found : (stems.filterMap fun stem =>
      (FeatureExtractor.frequency? terms stem).map fun q => (stem, q)).Nodup := by
    refine distinct_stems.filterMap fun s t entry hs ht => ?_
    obtain ⟨_, -, rfl⟩ := Option.map_eq_some_iff.1 hs
    obtain ⟨_, -, same⟩ := Option.map_eq_some_iff.1 ht
    exact (Prod.mk.inj same).1.symm
  refine (List.perm_ext_iff_of_nodup distinct_found (distinct.of_map.filter _)).2 fun entry => ?_
  rw [List.mem_filterMap, List.mem_filter, decide_eq_true_eq]
  constructor
  · rintro ⟨stem, member, found⟩
    obtain ⟨q, hq, rfl⟩ := Option.map_eq_some_iff.1 found
    exact ⟨(frequency?_eq_some_iff distinct).1 hq, member⟩
  · rintro ⟨listed, member⟩
    refine ⟨entry.1, member, ?_⟩
    rw [(frequency?_eq_some_iff distinct).2 listed]
    rfl

end RankedRetrieval.QueryTerms
