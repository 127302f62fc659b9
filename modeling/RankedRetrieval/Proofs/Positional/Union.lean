import Mathlib.Data.List.Nodup
import Mathlib.Data.List.Sort
import RankedRetrieval.Proofs.Index.Consistency
import RankedRetrieval.Proofs.Positional.Proximity
import RankedRetrieval.Proofs.Positional.Single

/-!
# Unions of inverted lists

What `synonym` reports, beside what its lists hold.

## Main Definitions

* `Merge.United` — a posting that a union of cursors has to report

## Main Results

* `Merge.united_iff_of_leastDoc?` — a step reports the least document and leaves the others
* `Merge.mem_unite_iff`, `Merge.mem_synonym_iff` — a union reports what it has to
* `Merge.sum_tf_unite` — a union has as many positions as its cursors together
* `Merge.synonym_unites` — what `synonym` reports
* `Merge.synonym_repeats` — a position that two lists share is reported twice

## Design Notes

**Positions are put together and sorted.**  A position that stands in two lists stands twice in
what comes out, and counts twice.  So the positions of a union increase exactly in the documents in
which no two lists share a position.
-/

namespace RankedRetrieval.Merge

open Cursor

variable {c : Cursor} {cs moved : List Cursor} {doc d : DocId} {p : Posting}

/-- A posting that a union has to report: some cursor has its document ahead, and its positions
are those of all cursors, in order. -/
structure United (cs : List Cursor) (p : Posting) : Prop where
  /-- Some cursor has the document ahead. -/
  some_ahead : ∃ c ∈ cs, (c.find? p.doc).isSome
  /-- The positions are those that are ahead, in order. -/
  positions_eq : p.positions = ((findAll cs p.doc).flatMap Posting.positionsOf).mergeSort

/-! ### The least document -/

/-- No cursor has a document before the least one ahead. -/
theorem le_of_ahead (ordered : AllOrdered cs) (least : leastDoc? cs = some doc) (member : c ∈ cs)
    (ahead : (c.find? d).isSome) : doc ≤ d := by
  obtain ⟨here, at_here⟩ := exists_doc?_of_find?_isSome ahead
  exact Nat.le_trans (leastDoc?_le least member at_here)
    (le_of_find?_isSome (ordered c member) at_here ahead)

/-- Without a least document nothing is ahead. -/
theorem allAhead_eq_nil (exhausted : leastDoc? cs = none) : allAhead cs = [] := by
  rw [leastDoc?, List.min?_eq_none_iff, List.filterMap_eq_nil_iff] at exhausted
  exact List.flatMap_eq_nil_iff.2 fun c member => rest_eq_nil (exhausted c member)

/-- Where nothing is ahead, nothing has to be reported. -/
theorem not_united_of_allAhead_eq_nil (nothing : allAhead cs = []) : ¬ United cs p := by
  intro united
  obtain ⟨c, member, ahead⟩ := united.some_ahead
  obtain ⟨q, hq, -⟩ := exists_of_find?_isSome ahead
  rw [List.flatMap_eq_nil_iff.1 nothing c member] at hq
  exact absurd hq List.not_mem_nil

/-- The positions at the least document are those that are ahead there. -/
theorem positionsAt_eq (ordered : AllOrdered cs) (least : leastDoc? cs = some doc) :
    positionsAt doc cs = ((findAll cs doc).flatMap Posting.positionsOf).mergeSort := by
  have here {c : Cursor} (member : c ∈ cs) : Posting.positionsOf (c.find? doc) =
      if c.doc? = some doc then firstPositions c.rest else [] := by
    split
    · rename_i at_doc
      rw [find?_eq_posting? at_doc, posting?]
      cases c.rest <;> rfl
    · rename_i elsewhere
      cases found : c.find? doc with
      | none => rfl
      | some q =>
        -- a cursor with the least document ahead is at it
        obtain ⟨other, at_other⟩ := exists_doc?_of_find?_isSome (Option.isSome_of_mem found)
        have le := le_of_find?_isSome (ordered c member) at_other (Option.isSome_of_mem found)
        have same := Nat.le_antisymm le (leastDoc?_le least member at_other)
        exact absurd (same ▸ at_other) elsewhere
  rw [positionsAt, findAll, List.flatMap_map, List.flatMap_congr fun c hc => here hc]
  congr 1
  clear here ordered least
  induction cs with
  | nil => rfl
  | cons c cs ih =>
    by_cases at_doc : c.doc? = some doc
    · rw [List.filter_cons_of_pos (by simpa using at_doc), List.flatMap_cons, List.flatMap_cons, ih,
        if_pos at_doc]
    · rw [List.filter_cons_of_neg (by simpa using at_doc), List.flatMap_cons, ih, if_neg at_doc]
      rfl

/-! ### Leaving a document -/

theorem findAll_leave (ordered : AllOrdered cs) (later : doc < d) :
    findAll (leave doc cs) d = findAll cs d := by
  rw [findAll, leave, List.map_map, findAll]
  refine List.map_congr_left fun c member => ?_
  rw [Function.comp_apply]
  split
  · rw [advancePast_eq_advanceTo, find?_advanceTo (ordered c member) later]
  · rfl

/-- Once cursors have left their least document, nothing up to it is ahead. -/
theorem not_ahead_leave (ordered : AllOrdered cs) (least : leastDoc? cs = some doc)
    (reached : d ≤ doc) (member : c ∈ leave doc cs) : ¬ (c.find? d).isSome := by
  intro ahead
  obtain ⟨p, hp, rfl⟩ := exists_of_find?_isSome ahead
  exact absurd reached (Nat.not_le_of_gt (lt_of_mem_leave ordered least member hp))

/-- What has to be reported from a document on is known from what is ahead. -/
theorem united_congr (same : findAll moved p.doc = findAll cs p.doc) :
    United moved p ↔ United cs p := by
  have ahead_iff (cs : List Cursor) : (∃ c ∈ cs, (c.find? p.doc).isSome) ↔
      ∃ posting? ∈ findAll cs p.doc, posting?.isSome := by
    simp [findAll]
  constructor
  · rintro ⟨ahead, positions_eq⟩
    exact ⟨(ahead_iff cs).2 (same ▸ (ahead_iff moved).1 ahead), same ▸ positions_eq⟩
  · rintro ⟨ahead, positions_eq⟩
    exact ⟨(ahead_iff moved).2 (same ▸ (ahead_iff cs).1 ahead), same ▸ positions_eq⟩

/-- What has to be reported is the posting of the least document, and what has to be reported once
that is left. -/
theorem united_iff_of_leastDoc? (ordered : AllOrdered cs) (least : leastDoc? cs = some doc) :
    United cs p ↔ p = ⟨doc, positionsAt doc cs⟩ ∨ United (leave doc cs) p := by
  have positions := positionsAt_eq ordered least
  constructor
  · intro united
    obtain ⟨c, member, ahead⟩ := united.some_ahead
    rcases Nat.eq_or_lt_of_le (le_of_ahead ordered least member ahead) with rfl | later
    · exact .inl (by rw [positions, ← united.positions_eq])
    · exact .inr ((united_congr (findAll_leave ordered later)).2 united)
  · rintro (rfl | united)
    · obtain ⟨c, member, at_doc⟩ := List.mem_filterMap.1 (List.min?_mem least)
      obtain ⟨first, head, -⟩ := doc?_eq_some at_doc
      have ahead : (c.find? doc).isSome := by
        rw [find?_eq_posting? at_doc, posting?, head]
        rfl
      exact ⟨⟨c, member, ahead⟩, positions⟩
    · obtain ⟨c, member, ahead⟩ := united.some_ahead
      have later : doc < p.doc := by
        by_contra reached
        exact not_ahead_leave ordered least (Nat.le_of_not_lt reached) member ahead
      exact (united_congr (findAll_leave ordered later)).1 united

/-! ### Runs -/

/-- The current postings of the cursors that are at a document. -/
def postingsAt (doc : DocId) (cs : List Cursor) : List Posting :=
  (cs.filter fun c => c.doc? = some doc).filterMap Cursor.posting?

/-- Cursors that leave a document leave their postings of it behind, and no others. -/
theorem allAhead_perm (increasing : ∀ c ∈ cs, Increasing c.rest) (doc : DocId) :
    (allAhead cs).Perm (postingsAt doc cs ++ allAhead (leave doc cs)) := by
  induction cs with
  | nil => exact .refl []
  | cons c cs ih =>
    obtain ⟨first, others⟩ := List.forall_mem_cons.1 increasing
    rw [allAhead_cons, leave, List.map_cons, ← leave, allAhead_cons, postingsAt]
    by_cases at_doc : c.doc? = some doc
    · obtain ⟨p, head, rfl⟩ := doc?_eq_some at_doc
      obtain ⟨ps, split⟩ := List.head?_eq_some_iff.1 head
      have current : c.posting? = some p := head
      rw [if_pos at_doc, rest_advancePast first split, split,
        List.filter_cons_of_pos (by simpa using at_doc), List.filterMap_cons_some current,
        ← postingsAt]
      exact .cons p (((ih others).append_left ps).trans (List.perm_append_comm_assoc ..))
    · rw [if_neg at_doc, List.filter_cons_of_neg (by simpa using at_doc), ← postingsAt]
      exact ((ih others).append_left c.rest).trans (List.perm_append_comm_assoc ..)

theorem length_positionsAt (doc : DocId) (cs : List Cursor) :
    (positionsAt doc cs).length = ((postingsAt doc cs).map Posting.tf).sum := by
  rw [positionsAt, postingsAt, List.length_mergeSort, List.length_flatMap]
  induction cs.filter fun c => c.doc? = some doc with
  | nil => rfl
  | cons c cs ih =>
    rw [List.map_cons, List.sum_cons, ih]
    cases split : c.rest with
    | nil =>
      rw [List.filterMap_cons_none (by rw [posting?, split]; rfl)]
      exact Nat.zero_add _
    | cons p ps =>
      rw [List.filterMap_cons_some (by rw [posting?, split]; rfl)]
      rfl

/-- Leaving the least document leaves postings behind. -/
theorem totalRemaining_leave_lt (increasing : ∀ c ∈ cs, Increasing c.rest)
    (least : leastDoc? cs = some doc) : totalRemaining (leave doc cs) < totalRemaining cs := by
  obtain ⟨c, member, at_doc⟩ := List.mem_filterMap.1 (List.min?_mem least)
  obtain ⟨first, head, -⟩ := doc?_eq_some at_doc
  have left_behind : first ∈ postingsAt doc cs :=
    List.mem_filterMap.2 ⟨c, List.mem_filter.2 ⟨member, by simpa using at_doc⟩, head⟩
  have lengths := (allAhead_perm increasing doc).length_eq
  have some_behind := List.length_pos_of_mem left_behind
  rw [List.length_append] at lengths
  rw [totalRemaining_eq_length, totalRemaining_eq_length]
  omega

/-- Leaving a document keeps what is ahead in increasing order. -/
theorem increasing_leave (increasing : ∀ c ∈ cs, Increasing c.rest) (doc : DocId) :
    ∀ c ∈ leave doc cs, Increasing c.rest := by
  refine leave_kept (fun c d increasing => ?_) doc increasing
  exact increasing.sublist (rest_advanceTo_suffix (Increasing.ordered increasing) d).sublist

/-- A union reports what it has to report. -/
theorem mem_unite_iff {fuel : Nat} (increasing : ∀ c ∈ cs, Increasing c.rest)
    (enough : totalRemaining cs ≤ fuel) : p ∈ unite fuel cs ↔ United cs p := by
  have ordered : AllOrdered cs := fun c hc => (increasing c hc).ordered
  induction fuel generalizing cs with
  | zero =>
    rw [totalRemaining_eq_length, Nat.le_zero, List.length_eq_zero_iff] at enough
    exact iff_of_false List.not_mem_nil (not_united_of_allAhead_eq_nil enough)
  | succ fuel ih =>
    rw [unite]
    cases least : leastDoc? cs with
    | none =>
      exact iff_of_false List.not_mem_nil (not_united_of_allAhead_eq_nil (allAhead_eq_nil least))
    | some doc =>
      have fewer := totalRemaining_leave_lt increasing least
      have left := increasing_leave increasing doc
      have later := ih left (by omega) fun c hc => (left c hc).ordered
      rw [united_iff_of_leastDoc? ordered least]
      exact List.mem_cons.trans (or_congr_right later)

/-- A union has as many positions as its cursors have ahead of them together. -/
theorem sum_tf_unite {fuel : Nat} (increasing : ∀ c ∈ cs, Increasing c.rest)
    (enough : totalRemaining cs ≤ fuel) :
    ((unite fuel cs).map Posting.tf).sum = ((allAhead cs).map Posting.tf).sum := by
  induction fuel generalizing cs with
  | zero =>
    rw [totalRemaining_eq_length, Nat.le_zero, List.length_eq_zero_iff] at enough
    rw [enough, unite]
  | succ fuel ih =>
    rw [unite]
    cases least : leastDoc? cs with
    | none => rw [allAhead_eq_nil least]
    | some doc =>
      have fewer := totalRemaining_leave_lt increasing least
      have later := ih (increasing_leave increasing doc) (by omega)
      have parted := ((allAhead_perm increasing doc).map Posting.tf).sum_nat
      rw [List.map_append, List.sum_append, ← length_positionsAt] at parted
      rw [parted, ← later]
      rfl

/-! ### Lists -/

variable {lists : List InvertedList}

/-- Of some lists, the documents that any of them holds are reported, with the positions of all of
them in order. -/
theorem mem_synonym_iff (increasing : ∀ l ∈ lists, Increasing l.postings) :
    p ∈ synonym lists ↔
      (∃ l ∈ lists, (l.posting? p.doc).isSome) ∧
        p.positions = (positionLists p.doc lists).flatten.mergeSort := by
  have ahead : ∀ c ∈ lists.map Cursor.start, Increasing c.rest := List.forall_mem_map.2 increasing
  have positions : (findAll (lists.map Cursor.start) p.doc).flatMap Posting.positionsOf =
      (positionLists p.doc lists).flatten := by
    rw [findAll, List.map_map, List.flatMap_map, positionLists]
    rfl
  rw [synonym, mem_unite_iff ahead (Nat.le_refl _)]
  have held : (∃ c ∈ lists.map Cursor.start, (c.find? p.doc).isSome) ↔
      ∃ l ∈ lists, (l.posting? p.doc).isSome := by
    simp only [List.mem_map, exists_exists_and_eq_and]
    rfl
  rw [← held, ← positions]
  constructor
  · intro united
    exact ⟨united.some_ahead, united.positions_eq⟩
  · rintro ⟨some_ahead, positions_eq⟩
    exact ⟨some_ahead, positions_eq⟩

/-- A union has as many occurrences as its lists together. -/
theorem ctf_synonym (increasing : ∀ l ∈ lists, Increasing l.postings) :
    (Query.merge .syn lists).ctf = (lists.map InvertedList.ctf).sum := by
  have ahead : ∀ c ∈ lists.map Cursor.start, Increasing c.rest := List.forall_mem_map.2 increasing
  have total := sum_tf_unite ahead (Nat.le_refl _)
  rw [Index.ctf_eq_sum]
  refine total.trans ?_
  clear total ahead increasing
  induction lists with
  | nil => rfl
  | cons l lists ih =>
    rw [List.map_cons, allAhead_cons, List.map_append, List.sum_append, ih, List.map_cons,
      List.sum_cons, Index.ctf_eq_sum]
    rfl

/-- The positions of some lists increase, once they are sorted, exactly if no two of the lists
share a position. -/
theorem pairwise_lt_iff {positions : List Nat} {ls : List (List Nat)}
    (increasing : ∀ l ∈ ls, l.Pairwise (· < ·)) (sorted : positions.Pairwise (· ≤ ·))
    (perm : positions.Perm ls.flatten) :
    positions.Pairwise (· < ·) ↔ ls.Pairwise List.Disjoint := by
  have distinct : ∀ l ∈ ls, l.Nodup := fun l hl => (increasing l hl).imp fun lt => Nat.ne_of_lt lt
  have strict : positions.Pairwise (· < ·) ↔ positions.Nodup :=
    ⟨fun increasing => increasing.imp fun lt => Nat.ne_of_lt lt,
      fun nodup => (sorted.and nodup).imp fun ⟨le, ne⟩ => Nat.lt_of_le_of_ne le ne⟩
  rw [strict, perm.nodup_iff, List.nodup_flatten]
  exact and_iff_right distinct

/-- `synonym` reports the documents that any list holds, in order, each with the positions of all
lists in order.  They increase exactly if no two lists share a position there: a position that
several lists hold is counted for each of them. -/
theorem synonym_unites (wellFormed : ∀ l ∈ lists, l.WellFormed) :
    Increasing (synonym lists) ∧
      (∀ doc, Reports (synonym lists) doc ↔ ∃ l ∈ lists, (l.posting? doc).isSome) ∧
      (∀ p ∈ synonym lists,
        p.positions.Pairwise (· ≤ ·) ∧ p.positions.Perm (positionLists p.doc lists).flatten ∧
          (p.positions.Pairwise (· < ·) ↔ (positionLists p.doc lists).Pairwise List.Disjoint)) ∧
      (Query.merge .syn lists).ctf = (lists.map InvertedList.ctf).sum := by
  have increasing : ∀ l ∈ lists, Increasing l.postings := fun l hl => (wellFormed l hl).increasing
  refine ⟨synonym_increasing fun l hl => (increasing l hl).ordered, fun doc => ⟨?_, ?_⟩,
    fun p reported => ?_, ctf_synonym increasing⟩
  · rintro ⟨p, reported, rfl⟩
    exact ((mem_synonym_iff increasing).1 reported).1
  · intro held
    exact ⟨⟨doc, (positionLists doc lists).flatten.mergeSort⟩,
      (mem_synonym_iff increasing).2 ⟨held, rfl⟩, rfl⟩
  · obtain ⟨-, positions_eq⟩ := (mem_synonym_iff increasing).1 reported
    have sorted : p.positions.Pairwise (· ≤ ·) := by
      rw [positions_eq]
      exact List.pairwise_mergeSort' (· ≤ ·) _
    have perm : p.positions.Perm (positionLists p.doc lists).flatten := by
      rw [positions_eq]
      exact List.mergeSort_perm _ _
    refine ⟨sorted, perm, pairwise_lt_iff (List.forall_mem_map.2 fun l hl => ?_) sorted perm⟩
    exact increasing_positionsIn (wellFormed l hl) p.doc

/-- Two stems that stand at different positions. -/
theorem synonym_unites_pair :
    (∀ l ∈ [ofPositions [0, 3], ofPositions [1]], l.WellFormed) ∧
      ∃ p ∈ synonym [ofPositions [0, 3], ofPositions [1]],
        p.positions.Pairwise (· < ·) ∧ p.positions.Perm [0, 3, 1] := by
  have wellFormed : ∀ l ∈ [ofPositions [0, 3], ofPositions [1]], l.WellFormed := by
    simp [wellFormed_ofPositions]
  obtain ⟨-, reports, posting, -⟩ := synonym_unites wellFormed
  obtain ⟨p, reported, at_doc⟩ := (reports 0).2 ⟨_, List.mem_cons_self, rfl⟩
  obtain ⟨-, perm, increasing_iff⟩ := posting p reported
  rw [at_doc] at perm increasing_iff
  have disjoint :
      (positionLists 0 [ofPositions [0, 3], ofPositions [1]]).Pairwise List.Disjoint := by
    show [[0, 3], [1]].Pairwise List.Disjoint
    simp
  exact ⟨wellFormed, p, reported, increasing_iff.2 disjoint, perm⟩

/-- A list that is given twice has its position reported twice. -/
theorem synonym_repeats :
    (∀ l ∈ [ofPositions [0], ofPositions [0]], l.WellFormed) ∧
      ⟨0, [0, 0]⟩ ∈ synonym [ofPositions [0], ofPositions [0]] ∧
        ¬ [0, 0].Pairwise (· < ·) ∧
          (Query.merge .syn [ofPositions [0], ofPositions [0]]).ctf = 2 := by
  have wellFormed : ∀ l ∈ [ofPositions [0], ofPositions [0]], l.WellFormed := by
    simp [wellFormed_ofPositions]
  have increasing : ∀ l ∈ [ofPositions [0], ofPositions [0]], Increasing l.postings :=
    fun l hl => (wellFormed l hl).increasing
  have sorted : [0, 0].mergeSort = [0, 0] := List.mergeSort_of_pairwise (by decide)
  refine ⟨wellFormed, (mem_synonym_iff increasing).2 ⟨⟨_, List.mem_cons_self, rfl⟩, sorted.symm⟩,
    by decide, ?_⟩
  rw [ctf_synonym increasing]
  rfl

end RankedRetrieval.Merge
