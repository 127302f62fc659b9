import Mathlib.Data.List.TakeWhile
import Mathlib.Order.MinMax
import RankedRetrieval.Positional.Cursor

/-!
# Movement of cursors

Where a cursor is after it has moved over an ordered list.

## Main Definitions

* `Ordered` — postings whose documents never decrease
* `Increasing` — postings whose documents increase
* `Cursor.At` — a cursor that has been moved to a lower bound of documents

## Design Notes

Moving past a document is moving to the next number, so every movement is `Cursor.advanceTo`.
An index built from documents that name a field twice holds two postings of one document, which
is why cursors are only asked for `Ordered` lists.
-/

namespace RankedRetrieval

/-- The documents of postings never decrease. -/
def Ordered (ps : List Posting) : Prop :=
  ps.Pairwise fun p q => p.doc ≤ q.doc

/-- The documents of postings increase. -/
def Increasing (ps : List Posting) : Prop :=
  ps.Pairwise fun p q => p.doc < q.doc

theorem Increasing.ordered {ps : List Posting} (increasing : Increasing ps) : Ordered ps :=
  increasing.imp fun before => Nat.le_of_lt before

/-- Looking for the document of a posting finds the posting. -/
theorem Increasing.find?_eq {ps : List Posting} (increasing : Increasing ps) {p : Posting}
    (member : p ∈ ps) : ps.find? (fun q => q.doc = p.doc) = some p := by
  induction ps with
  | nil => simp at member
  | cons q ps ih =>
    obtain ⟨before, increasing⟩ := List.pairwise_cons.1 increasing
    rcases List.mem_cons.1 member with rfl | later
    · exact List.find?_cons_of_pos (by simp)
    · have other : q.doc ≠ p.doc := Nat.ne_of_lt (before p later)
      rw [List.find?_cons_of_neg (by simpa using other), ih increasing later]

theorem Ordered.sublist {ps qs : List Posting} (ordered : Ordered qs) (sub : ps.Sublist qs) :
    Ordered ps :=
  List.Pairwise.sublist sub ordered

/-- The first of ordered postings has the least document. -/
theorem Ordered.head_le {ps : List Posting} (ordered : Ordered ps) {first p : Posting}
    (head : ps.head? = some first) (member : p ∈ ps) : first.doc ≤ p.doc := by
  cases ps with
  | nil => simp at head
  | cons q rest =>
    obtain rfl : q = first := by simpa using head
    rcases List.mem_cons.1 member with rfl | later
    · exact Nat.le_refl _
    · exact (List.pairwise_cons.1 ordered).1 p later

/-- What is left of ordered postings once the documents before a bound are dropped does not
lie before the bound. -/
theorem Ordered.le_of_mem_dropWhile {ps : List Posting} (ordered : Ordered ps) {bound : DocId}
    {p : Posting} (member : p ∈ ps.dropWhile fun q => q.doc < bound) : bound ≤ p.doc := by
  induction ps with
  | nil => simp at member
  | cons q rest ih =>
    by_cases before : q.doc < bound
    · rw [List.dropWhile_cons_of_pos (by simpa using before)] at member
      exact ih (List.pairwise_cons.1 ordered).2 member
    · rw [List.dropWhile_cons_of_neg (by simpa using before)] at member
      exact (Nat.le_of_not_lt before).trans (ordered.head_le rfl member)

/-- Dropping the documents before a bound loses none of the others. -/
theorem mem_dropWhile_of_le {ps : List Posting} {bound : DocId} {p : Posting} (member : p ∈ ps)
    (reached : bound ≤ p.doc) : p ∈ ps.dropWhile fun q => q.doc < bound := by
  induction ps with
  | nil => simp at member
  | cons q rest ih =>
    by_cases before : q.doc < bound
    · rw [List.dropWhile_cons_of_pos (by simpa using before)]
      rcases List.mem_cons.1 member with rfl | later
      · exact absurd before (Nat.not_lt.2 reached)
      · exact ih later
    · rwa [List.dropWhile_cons_of_neg (by simpa using before)]

/-- Dropping up to one bound and then up to another is dropping up to the greater one. -/
theorem dropWhile_dropWhile (ps : List Posting) (bound target : DocId) :
    (ps.dropWhile fun q => q.doc < bound).dropWhile (fun q => q.doc < target) =
      ps.dropWhile fun q => q.doc < max bound target := by
  induction ps with
  | nil => rfl
  | cons q rest ih =>
    by_cases before : q.doc < bound
    · have both : q.doc < max bound target := Nat.lt_of_lt_of_le before (Nat.le_max_left _ _)
      rw [List.dropWhile_cons_of_pos (by simpa using before),
        List.dropWhile_cons_of_pos (by simpa using both), ih]
    · rw [List.dropWhile_cons_of_neg (by simpa using before)]
      rcases Nat.lt_or_ge q.doc target with later | reached
      · rw [max_eq_right (Nat.le_of_lt (Nat.lt_of_le_of_lt (Nat.le_of_not_lt before) later))]
      · have both : ¬ q.doc < max bound target := by
          simpa using ⟨Nat.le_of_not_lt before, reached⟩
        rw [List.dropWhile_cons_of_neg (by simpa using reached),
          List.dropWhile_cons_of_neg (by simpa using both)]

namespace Cursor

/-! ### Halving -/

/-- Whatever has been passed, what halving leaves is the end of the list. -/
theorem skipPassed_suffix {β : Type} (passed : β → Bool) (xs : List β) :
    skipPassed passed xs <:+ xs := by
  fun_induction skipPassed passed xs with
  | case1 xs _ half _ ih => exact ih.trans (List.drop_suffix half xs)
  | case2 xs _ half _ ih =>
    obtain ⟨skipped, split⟩ := ih
    refine ⟨skipped, ?_⟩
    rw [← List.append_assoc, split, List.take_append_drop]
  | case3 xs _ => exact List.dropWhile_suffix _

@[simp]
theorem skipPassed_nil {β : Type} (passed : β → Bool) : skipPassed passed ([] : List β) = [] :=
  List.eq_nil_of_suffix_nil (skipPassed_suffix passed [])

/-! ### Moving forward -/

@[simp]
theorem list_advanceWhile (passed : DocId → Bool) (c : Cursor) :
    (c.advanceWhile passed).list = c.list := by
  unfold advanceWhile
  dsimp only
  split <;> rfl

@[simp]
theorem list_advanceTo (c : Cursor) (d : DocId) : (c.advanceTo d).list = c.list :=
  list_advanceWhile _ c

/-- Moving past a document is moving to the number after it. -/
theorem advancePast_eq_advanceTo (c : Cursor) (d : DocId) :
    c.advancePast d = c.advanceTo (d + 1) := by
  unfold advancePast advanceTo
  congr 1
  funext other
  exact decide_eq_decide.2 Nat.lt_succ_iff.symm

/-- On an ordered list, halving skips exactly the documents before a bound. -/
theorem skipPassed_doc {ps : List Posting} (ordered : Ordered ps) (d : DocId) :
    skipPassed (fun p => decide (p.doc < d)) ps = ps.dropWhile fun p => p.doc < d := by
  apply skipPassed_eq_dropWhile
  refine ordered.imp fun {p q} le passed => ?_
  simp only [decide_eq_true_eq] at passed ⊢
  exact Nat.lt_of_le_of_lt le passed

/-- On an ordered list, moving to a document drops exactly the documents before it. -/
theorem rest_advanceTo {c : Cursor} (ordered : Ordered c.rest) (d : DocId) :
    (c.advanceTo d).rest = c.rest.dropWhile fun p => p.doc < d := by
  unfold advanceTo advanceWhile
  dsimp only
  rw [skipPassed_doc ordered]
  split
  · rfl
  · -- a suffix that is no shorter is the whole
    rename_i full
    exact ((List.dropWhile_suffix _).eq_of_length_le (Nat.le_of_not_lt full)).symm

theorem rest_advanceTo_suffix {c : Cursor} (ordered : Ordered c.rest) (d : DocId) :
    (c.advanceTo d).rest <:+ c.rest := by
  rw [rest_advanceTo ordered]
  exact List.dropWhile_suffix _

theorem ordered_advanceTo {c : Cursor} (ordered : Ordered c.rest) (d : DocId) :
    Ordered (c.advanceTo d).rest :=
  ordered.sublist (rest_advanceTo_suffix ordered d).sublist

/-- After a move no document before the target is ahead. -/
theorem le_of_mem_rest_advanceTo {c : Cursor} (ordered : Ordered c.rest) {d : DocId}
    {p : Posting} (member : p ∈ (c.advanceTo d).rest) : d ≤ p.doc := by
  rw [rest_advanceTo ordered] at member
  exact ordered.le_of_mem_dropWhile member

/-- A cursor is at the first document of those ahead. -/
theorem doc?_eq_some {c : Cursor} {d : DocId} (at_d : c.doc? = some d) :
    ∃ p, c.rest.head? = some p ∧ p.doc = d :=
  Option.map_eq_some_iff.1 at_d

theorem le_of_mem_rest {c : Cursor} (ordered : Ordered c.rest) {d : DocId}
    (at_d : c.doc? = some d) {p : Posting} (member : p ∈ c.rest) : d ≤ p.doc := by
  obtain ⟨first, head, rfl⟩ := doc?_eq_some at_d
  exact ordered.head_le head member

/-- A cursor without a document has nothing ahead. -/
theorem rest_eq_nil {c : Cursor} (exhausted : c.doc? = none) : c.rest = [] := by
  simpa [doc?, posting?] using exhausted

/-! ### A cursor at a bound -/

/-- A cursor over an ordered list from which exactly the documents before a bound have been
dropped. -/
structure At (bound : DocId) (c : Cursor) : Prop where
  /-- The list is ordered. -/
  ordered : Ordered c.list.postings
  /-- What is ahead. -/
  rest_eq : c.rest = c.list.postings.dropWhile fun p => p.doc < bound

namespace At

variable {bound : DocId} {c : Cursor}

theorem start {l : InvertedList} (ordered : Ordered l.postings) : At 0 (Cursor.start l) where
  ordered := ordered
  rest_eq := by
    cases h : l.postings with
    | nil => simp [Cursor.start, h]
    | cons p rest => simp [Cursor.start, h]

theorem ordered_rest (h : c.At bound) : Ordered c.rest := by
  rw [h.rest_eq]
  exact h.ordered.sublist (List.dropWhile_sublist _)

theorem advanceTo (h : c.At bound) (d : DocId) : (c.advanceTo d).At (max bound d) where
  ordered := by simpa using h.ordered
  rest_eq := by
    rw [rest_advanceTo h.ordered_rest, h.rest_eq, list_advanceTo, dropWhile_dropWhile]

/-- The current document is the least one of the list that is not before the bound. -/
theorem doc?_eq_some_iff (h : c.At bound) (d : DocId) :
    c.doc? = some d ↔
      (bound ≤ d ∧ ∃ p ∈ c.list.postings, p.doc = d) ∧
        ∀ p ∈ c.list.postings, bound ≤ p.doc → d ≤ p.doc := by
  constructor
  · intro at_d
    obtain ⟨first, head, rfl⟩ := doc?_eq_some at_d
    have member : first ∈ c.rest := List.mem_of_head? head
    rw [h.rest_eq] at member
    refine ⟨⟨h.ordered.le_of_mem_dropWhile member, first,
      (List.dropWhile_sublist _).subset member, rfl⟩, fun p hp reached => ?_⟩
    refine h.ordered_rest.head_le head ?_
    rw [h.rest_eq]
    exact mem_dropWhile_of_le hp reached
  · rintro ⟨⟨reached, p, hp, rfl⟩, least⟩
    have ahead : p ∈ c.rest := by
      rw [h.rest_eq]
      exact mem_dropWhile_of_le hp reached
    cases hdoc : c.doc? with
    | none => rw [rest_eq_nil hdoc] at ahead; simp at ahead
    | some d =>
      obtain ⟨first, head, rfl⟩ := doc?_eq_some hdoc
      have member : first ∈ c.list.postings.dropWhile fun q => q.doc < bound := by
        rw [← h.rest_eq]
        exact List.mem_of_head? head
      have lower := least first ((List.dropWhile_sublist _).subset member)
        (h.ordered.le_of_mem_dropWhile member)
      have upper := h.ordered_rest.head_le head ahead
      rw [Nat.le_antisymm upper lower]

/-- The current posting is the first one of its document. -/
theorem posting?_eq_find? (h : c.At bound) {d : DocId} (at_d : c.doc? = some d) :
    c.posting? = c.list.postings.find? fun p => p.doc = d := by
  obtain ⟨first, head, rfl⟩ := doc?_eq_some at_d
  have reached : bound ≤ first.doc := (((h.doc?_eq_some_iff _).1 at_d).1).1
  have split := List.takeWhile_append_dropWhile (p := fun p => decide (p.doc < bound))
    (l := c.list.postings)
  rw [← h.rest_eq] at split
  have skipped : ∀ p ∈ c.list.postings.takeWhile (fun p => decide (p.doc < bound)),
      ¬ (decide (p.doc = first.doc) = true) := by
    intro p hp
    have before : p.doc < bound := by simpa using List.mem_takeWhile_imp hp
    simpa using Nat.ne_of_lt (Nat.lt_of_lt_of_le before reached)
  rw [posting?, ← split, List.find?_append, List.find?_eq_none.2 skipped, Option.none_or]
  cases hrest : c.rest with
  | nil => simp [hrest] at head
  | cons q rest =>
    obtain rfl : q = first := by simpa [hrest] using head
    simp

end At

end Cursor

end RankedRetrieval
