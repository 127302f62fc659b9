import RankedRetrieval.Proofs.Positional.Merging
import RankedRetrieval.Proofs.Positional.Selection

/-!
# Sound postings

A posting is sound when it has positions, in order, and something occurs at each of them.
Merging sound postings makes sound postings: no merge reports a position that it has not found.

## Main Definitions

* `Posting.Sound` — a posting with occurrences at its positions, in order
* `Cursor.Over` — a cursor at the beginning of sound postings

## Main Results

* `Merge.synonym_sound` — uniting lists keeps postings sound
* `Merge.common_sound` — so does intersecting them, if what happens inside a document selects
  positions

## Design Notes

The position lists that an intersection reads are those of the cursors.  They belong to the
common document only because a cursor starts its positions anew at every document
(`Cursor.Over.positions_eq`) and because aligned cursors are at one document.
-/

namespace RankedRetrieval

/-- A posting that has positions, in order, with an occurrence at each of them. -/
structure Posting.Sound (occurs : DocId → Nat → Prop) (p : Posting) : Prop where
  /-- The posting has positions. -/
  positions_ne_nil : p.positions ≠ []
  /-- They never decrease. -/
  ascending : p.positions.Pairwise (· ≤ ·)
  /-- Something occurs at each of them. -/
  occurs_at : ∀ x ∈ p.positions, occurs p.doc x

theorem Posting.Sound.mono {occurs occurs' : DocId → Nat → Prop} {p : Posting}
    (more : ∀ doc x, occurs doc x → occurs' doc x) (sound : p.Sound occurs) :
    p.Sound occurs' where
  positions_ne_nil := sound.positions_ne_nil
  ascending := sound.ascending
  occurs_at x hx := more p.doc x (sound.occurs_at x hx)

variable {occurs : DocId → Nat → Prop}

namespace Cursor

/-- A cursor at the beginning of a posting, with nothing but sound postings ahead. -/
structure Over (occurs : DocId → Nat → Prop) (c : Cursor) : Prop where
  /-- What is ahead is ordered. -/
  ordered : Ordered c.rest
  /-- What is ahead is sound. -/
  sound : ∀ p ∈ c.rest, p.Sound occurs
  /-- No position of the current posting has been passed. -/
  positions_eq : c.positions = firstPositions c.rest

theorem over_start {l : InvertedList} (ordered : Ordered l.postings)
    (sound : ∀ p ∈ l.postings, p.Sound occurs) : (start l).Over occurs :=
  ⟨ordered, sound, rfl⟩

theorem kept_over : Kept (Over occurs) := by
  intro c d ahead
  have suffix := rest_advanceTo_suffix ahead.ordered d
  refine ⟨ahead.ordered.sublist suffix.sublist, fun p hp => ahead.sound p (suffix.subset hp), ?_⟩
  unfold advanceTo advanceWhile
  dsimp only
  split
  · rfl
  · exact ahead.positions_eq

/-- A cursor at a document stands at a sound posting of it. -/
theorem Over.sound_at {c : Cursor} {doc : DocId} (ahead : c.Over occurs)
    (at_doc : c.doc? = some doc) : Posting.Sound occurs ⟨doc, c.positions⟩ := by
  obtain ⟨p, head, rfl⟩ := doc?_eq_some at_doc
  have first : c.positions = p.positions := by
    rw [ahead.positions_eq]
    cases hrest : c.rest with
    | nil => simp [hrest] at head
    | cons q rest =>
      obtain rfl : q = p := by simpa [hrest] using head
      rfl
  rw [first]
  exact ahead.sound p (List.mem_of_head? head)

end Cursor

namespace Merge

/-! ### Occurrences of any list -/

theorem mem_positionsAt {doc : DocId} {cs : List Cursor} {x : Nat} :
    x ∈ positionsAt doc cs ↔
      ∃ c ∈ cs, c.doc? = some doc ∧ x ∈ Cursor.firstPositions c.rest := by
  simp only [positionsAt, List.mem_mergeSort, List.mem_flatMap, List.mem_filter,
    decide_eq_true_eq, and_assoc]

theorem positionsAt_pairwise (doc : DocId) (cs : List Cursor) :
    (positionsAt doc cs).Pairwise (· ≤ ·) := by
  have trans (x y z : Nat) (first : decide (x ≤ y) = true) (second : decide (y ≤ z) = true) :
      decide (x ≤ z) = true := by
    simp only [decide_eq_true_eq] at first second ⊢
    exact Nat.le_trans first second
  have total (x y : Nat) : (decide (x ≤ y) || decide (y ≤ x)) = true := by
    simpa using Nat.le_total x y
  have sorted := List.pairwise_mergeSort trans total
    ((cs.filter fun c => c.doc? = some doc).flatMap fun c => Cursor.firstPositions c.rest)
  exact sorted.imp fun le => of_decide_eq_true le

/-- The positions of the cursors at the first document make up a sound posting. -/
theorem positionsAt_sound {cs : List Cursor} {doc : DocId}
    (ahead : ∀ c ∈ cs, c.Over occurs) (least : leastDoc? cs = some doc) :
    Posting.Sound occurs ⟨doc, positionsAt doc cs⟩ where
  positions_ne_nil := by
    obtain ⟨c, hc, at_doc⟩ := List.mem_filterMap.1 (List.min?_mem least)
    obtain ⟨x, hx⟩ :=
      List.exists_mem_of_ne_nil _ ((ahead c hc).sound_at at_doc).positions_ne_nil
    dsimp only at hx
    rw [(ahead c hc).positions_eq] at hx
    exact List.ne_nil_of_mem (mem_positionsAt.2 ⟨c, hc, at_doc, hx⟩)
  ascending := positionsAt_pairwise doc cs
  occurs_at x hx := by
    obtain ⟨c, hc, at_doc, position⟩ := mem_positionsAt.1 hx
    rw [← (ahead c hc).positions_eq] at position
    exact ((ahead c hc).sound_at at_doc).occurs_at x position

theorem unite_sound {fuel : Nat} {cs : List Cursor} (ahead : ∀ c ∈ cs, c.Over occurs) :
    ∀ p ∈ unite fuel cs, p.Sound occurs := by
  induction fuel generalizing cs with
  | zero => simp [unite]
  | succ fuel ih =>
    unfold unite
    cases least : leastDoc? cs with
    | none => simp
    | some doc =>
      exact List.forall_mem_cons.2
        ⟨positionsAt_sound ahead least, ih (leave_kept Cursor.kept_over doc ahead)⟩

section Lists

variable {lists : List InvertedList}

theorem over_start_of_mem (ordered : ∀ l ∈ lists, Ordered l.postings)
    (sound : ∀ l ∈ lists, ∀ p ∈ l.postings, p.Sound occurs) :
    ∀ c ∈ lists.map Cursor.start, c.Over occurs :=
  List.forall_mem_map.2 fun l hl => Cursor.over_start (ordered l hl) (sound l hl)

theorem synonym_sound (ordered : ∀ l ∈ lists, Ordered l.postings)
    (sound : ∀ l ∈ lists, ∀ p ∈ l.postings, p.Sound occurs) :
    ∀ p ∈ synonym lists, p.Sound occurs :=
  unite_sound (over_start_of_mem ordered sound)

/-! ### Occurrences of all lists -/

/-- The positions that are selected from cursors at one document make up a sound posting. -/
theorem selected_sound {occurrences : List (List Nat) → List Nat}
    (selects : Selects occurrences) {doc : DocId} {aligned : List Cursor}
    (all_at : ∀ c ∈ aligned, c.Over occurs ∧ c.doc? = some doc)
    (found : occurrences (aligned.map Cursor.positions) ≠ []) :
    Posting.Sound occurs ⟨doc, occurrences (aligned.map Cursor.positions)⟩ := by
  have sound : ∀ c ∈ aligned, Posting.Sound occurs ⟨doc, c.positions⟩ :=
    fun c hc => (all_at c hc).1.sound_at (all_at c hc).2
  have ascending : ∀ l ∈ aligned.map Cursor.positions, l.Pairwise (· ≤ ·) :=
    List.forall_mem_map.2 fun c hc => (sound c hc).ascending
  refine ⟨found, selects.ascending _ ascending, fun x hx => ?_⟩
  obtain ⟨l, hl, within⟩ := selects.mem _ ascending x hx
  obtain ⟨c, hc, rfl⟩ := List.mem_map.1 hl
  exact (sound c hc).occurs_at x within

theorem intersect_sound {occurrences : List (List Nat) → List Nat}
    (selects : Selects occurrences) {fuel : Nat} {cs : List Cursor}
    (ahead : ∀ c ∈ cs, c.Over occurs) : ∀ p ∈ intersect occurrences fuel cs, p.Sound occurs := by
  induction fuel generalizing cs with
  | zero => simp [intersect]
  | succ fuel ih =>
    cases cs with
    | nil => simp [intersect, Cursor.align]
    | cons c cs =>
      unfold intersect
      cases aligned : Cursor.align (c :: cs) with
      | none => simp
      | some result =>
        obtain ⟨doc, moved⟩ := result
        obtain ⟨-, all_at⟩ :=
          Cursor.align_spec Cursor.kept_over (fun _ ahead => ahead.ordered) ahead aligned
        have later := ih (leaveFirst_kept Cursor.kept_over doc fun m hm => (all_at m hm).1)
        dsimp only
        split
        · exact later
        · rename_i found
          have some_found : occurrences (moved.map Cursor.positions) ≠ [] := by simpa using found
          exact List.forall_mem_cons.2 ⟨selected_sound selects all_at some_found, later⟩

theorem common_sound {occurrences : List (List Nat) → List Nat} (selects : Selects occurrences)
    (ordered : ∀ l ∈ lists, Ordered l.postings)
    (sound : ∀ l ∈ lists, ∀ p ∈ l.postings, p.Sound occurs) :
    ∀ p ∈ common occurrences lists, p.Sound occurs :=
  intersect_sound selects (over_start_of_mem ordered sound)

end Lists

end Merge

end RankedRetrieval
