import RankedRetrieval.Proofs.Positional.Soundness

/-!
# Agreement of cursors

Operators that ask for all of their arguments visit exactly the documents that all lists hold.

## Main Definitions

* `InvertedList.WellFormed` — a list with increasing documents and increasing positions
* `InvertedList.positionsIn` — the positions of a document in a list
* `Cursor.find?`, `Cursor.findAll` — the postings of a document that are ahead of cursors
* `Cursor.Common` — a document that all cursors have ahead
* `Cursor.Fresh` — a cursor at the beginning of one of increasing postings
* `Merge.Reported` — what an intersection has to report

## Main Results

* `Cursor.exists_align` — cursors with a common document are aligned, and not behind it
* `Cursor.findAll_align` — aligned cursors have lost nothing from their document on
* `Merge.mem_intersect_iff`, `Merge.mem_common_iff` — an intersection reports what it has to

## Design Notes

**What is ahead is asked document by document.**  A cursor that moves to a document loses no
posting of that document or of a later one, so the common documents are those of the cursors at
the start.

**Sweeps end.**  A sweep that raises its target raises it to a document that is ahead of some
cursor, so each further sweep has fewer postings behind its target.
-/

namespace RankedRetrieval

/-- The positions of a posting, if there is one. -/
def Posting.positionsOf (posting? : Option Posting) : List Nat :=
  (posting?.map Posting.positions).getD []

namespace InvertedList

/-- A list with increasing documents, and with increasing positions in each of them. -/
structure WellFormed (l : InvertedList) : Prop where
  /-- The documents increase. -/
  increasing : Increasing l.postings
  /-- The positions in a document increase. -/
  ascending : ∀ p ∈ l.postings, p.positions.Pairwise (· < ·)

/-- The posting of a document, if the list holds the document. -/
def posting? (l : InvertedList) (doc : DocId) : Option Posting :=
  l.postings.find? fun p => p.doc = doc

/-- The positions of a document in a list; none when the list lacks the document. -/
def positionsIn (l : InvertedList) (doc : DocId) : List Nat :=
  Posting.positionsOf (l.posting? doc)

end InvertedList

namespace Cursor

variable {c : Cursor} {cs moved : List Cursor} {doc d target : DocId}

/-! ### What is ahead of a cursor -/

/-- The posting of a document that is ahead of a cursor. -/
def find? (c : Cursor) (doc : DocId) : Option Posting :=
  c.rest.find? fun p => p.doc = doc

theorem exists_of_find?_isSome (ahead : (c.find? d).isSome) : ∃ p ∈ c.rest, p.doc = d := by
  simpa [find?] using ahead

/-- Moving to a document loses neither that document nor a later one. -/
theorem find?_advanceTo (ordered : Ordered c.rest) (le : target ≤ d) :
    (c.advanceTo target).find? d = c.find? d := by
  rw [find?, rest_advanceTo ordered, find?]
  induction c.rest with
  | nil => rfl
  | cons p ps ih =>
    by_cases passed : p.doc < target
    · have other : p.doc ≠ d := Nat.ne_of_lt (Nat.lt_of_lt_of_le passed le)
      rw [List.dropWhile_cons_of_pos (by simpa using passed), ih,
        List.find?_cons_of_neg (by simpa using other)]
    · rw [List.dropWhile_cons_of_neg (by simpa using passed)]

/-- Nothing before the document that a cursor has been moved to is ahead. -/
theorem find?_advanceTo_eq_none (ordered : Ordered c.rest) (lt : d < target) :
    (c.advanceTo target).find? d = none := by
  refine List.find?_eq_none.2 fun p member => ?_
  have reached := le_of_mem_rest_advanceTo ordered member
  simpa using Nat.ne_of_gt (Nat.lt_of_lt_of_le lt reached)

/-- The document that a cursor is at is the first one that is ahead. -/
theorem le_of_find?_isSome (ordered : Ordered c.rest) (at_doc : c.doc? = some doc)
    (ahead : (c.find? d).isSome) : doc ≤ d := by
  obtain ⟨p, member, rfl⟩ := exists_of_find?_isSome ahead
  exact le_of_mem_rest ordered at_doc member

/-- A cursor that has a document ahead is at one. -/
theorem exists_doc?_of_find?_isSome (ahead : (c.find? d).isSome) : ∃ doc, c.doc? = some doc := by
  cases at_doc : c.doc? with
  | some doc => exact ⟨doc, rfl⟩
  | none =>
    obtain ⟨p, member, -⟩ := exists_of_find?_isSome ahead
    rw [rest_eq_nil at_doc] at member
    simp at member

theorem find?_eq_posting? (at_doc : c.doc? = some doc) : c.find? doc = c.posting? := by
  obtain ⟨p, head, rfl⟩ := doc?_eq_some at_doc
  cases split : c.rest with
  | nil => simp [split] at head
  | cons q rest =>
    obtain rfl : q = p := by simpa [split] using head
    rw [find?, posting?, split, List.head?_cons, List.find?_cons_of_pos (by simp)]

/-- The postings of a document that are ahead of some cursors. -/
def findAll (cs : List Cursor) (doc : DocId) : List (Option Posting) :=
  cs.map fun c => c.find? doc

/-- All of some cursors have a document ahead. -/
def Common (cs : List Cursor) (doc : DocId) : Prop :=
  ∀ posting? ∈ findAll cs doc, posting?.isSome

theorem common_cons : Common (c :: cs) d ↔ (c.find? d).isSome ∧ Common cs d :=
  List.forall_mem_cons

/-! ### Sweeps -/

/-- A sweep loses nothing from the document on that it ends with. -/
theorem findAll_sweep (ordered : AllOrdered cs) (swept : sweep target cs = some (doc, moved))
    (le : doc ≤ d) : findAll moved d = findAll cs d := by
  induction cs generalizing target moved with
  | nil =>
    obtain ⟨-, rfl⟩ : target = doc ∧ [] = moved := by simpa [sweep] using swept
    rfl
  | cons c cs ih =>
    obtain ⟨orderedHead, orderedTail⟩ := allOrdered_cons.1 ordered
    obtain ⟨next, others, met, further, rfl⟩ := sweep_cons.1 swept
    have reached : target ≤ doc :=
      Nat.le_trans (le_of_met orderedHead met) (le_of_sweep orderedTail further)
    exact congrArg₂ List.cons (find?_advanceTo orderedHead (Nat.le_trans reached le))
      (ih orderedTail further)

/-- A sweep does not pass a document that all cursors have ahead. -/
theorem exists_sweep (ordered : AllOrdered cs) (le : target ≤ d) (common : Common cs d) :
    ∃ doc moved, sweep target cs = some (doc, moved) ∧ doc ≤ d := by
  induction cs generalizing target with
  | nil => exact ⟨target, [], rfl, le⟩
  | cons c cs ih =>
    obtain ⟨orderedHead, orderedTail⟩ := allOrdered_cons.1 ordered
    obtain ⟨head, tail⟩ := common_cons.1 common
    have ahead : ((c.advanceTo target).find? d).isSome := by
      rwa [find?_advanceTo orderedHead le]
    obtain ⟨next, met⟩ := exists_doc?_of_find?_isSome ahead
    have before : next ≤ d := le_of_find?_isSome (ordered_advanceTo orderedHead target) met ahead
    obtain ⟨doc, others, further, reached⟩ := ih orderedTail before tail
    exact ⟨doc, _, sweep_cons.2 ⟨next, others, met, further, rfl⟩, reached⟩

/-- All that is ahead of some cursors. -/
def allAhead (cs : List Cursor) : List Posting := cs.flatMap Cursor.rest

theorem allAhead_cons (c : Cursor) (cs : List Cursor) :
    allAhead (c :: cs) = c.rest ++ allAhead cs := rfl

theorem totalRemaining_eq_length (cs : List Cursor) :
    totalRemaining cs = (allAhead cs).length := by
  induction cs with
  | nil => rfl
  | cons c cs ih =>
    rw [totalRemaining] at ih
    rw [totalRemaining, List.foldr_cons, ih, allAhead_cons, List.length_append]
    rfl

theorem allAhead_sweep (ordered : AllOrdered cs)
    (swept : sweep target cs = some (doc, moved)) : (allAhead moved).Sublist (allAhead cs) := by
  induction cs generalizing target moved with
  | nil =>
    obtain ⟨-, rfl⟩ : target = doc ∧ [] = moved := by simpa [sweep] using swept
    exact List.Sublist.refl _
  | cons c cs ih =>
    obtain ⟨orderedHead, orderedTail⟩ := allOrdered_cons.1 ordered
    obtain ⟨next, others, -, further, rfl⟩ := sweep_cons.1 swept
    exact (rest_advanceTo_suffix orderedHead target).sublist.append (ih orderedTail further)

/-- A sweep that raises its target raises it to a document that is ahead of some cursor. -/
theorem exists_doc_of_sweep (ordered : AllOrdered cs)
    (swept : sweep target cs = some (doc, moved)) :
    doc = target ∨ ∃ p ∈ allAhead cs, p.doc = doc := by
  induction cs generalizing target moved with
  | nil =>
    obtain ⟨rfl, -⟩ : target = doc ∧ [] = moved := by simpa [sweep] using swept
    exact .inl rfl
  | cons c cs ih =>
    obtain ⟨orderedHead, orderedTail⟩ := allOrdered_cons.1 ordered
    obtain ⟨next, others, met, further, -⟩ := sweep_cons.1 swept
    rcases ih orderedTail further with rfl | ⟨p, member, rfl⟩
    · obtain ⟨p, head, rfl⟩ := doc?_eq_some met
      have ahead := (rest_advanceTo_suffix orderedHead target).subset (List.mem_of_head? head)
      exact .inr ⟨p, List.mem_append_left _ ahead, rfl⟩
    · exact .inr ⟨p, List.mem_append_right _ member, rfl⟩

/-- Fewer postings lie behind the document of one of them than behind an earlier document. -/
theorem countP_later_lt {ps : List Posting} (lt : target < doc)
    (held : ∃ p ∈ ps, p.doc = doc) :
    ps.countP (fun p => doc < p.doc) < ps.countP fun p => target < p.doc := by
  obtain ⟨p, member, rfl⟩ := held
  obtain ⟨before, after, rfl⟩ := List.append_of_mem member
  have fewer (qs : List Posting) :
      qs.countP (fun q => p.doc < q.doc) ≤ qs.countP fun q => target < q.doc :=
    List.countP_mono_left fun q _ later => by
      simp only [decide_eq_true_eq] at later ⊢
      exact Nat.lt_trans lt later
  have counted : (p :: after).countP (fun q => target < q.doc) =
      after.countP (fun q => target < q.doc) + 1 := List.countP_cons_of_pos (by simpa using lt)
  have uncounted : (p :: after).countP (fun q => p.doc < q.doc) =
      after.countP fun q => p.doc < q.doc := List.countP_cons_of_neg (by simp)
  rw [List.countP_append, List.countP_append, counted, uncounted]
  exact Nat.add_lt_add_of_le_of_lt (fewer before) (Nat.lt_succ_of_le (fewer after))

/-! ### Agreement -/

/-- Settling loses nothing from the common document on, and moves no cursor back. -/
theorem findAll_settle {fuel : Nat} (ordered : AllOrdered cs)
    (settled : settle fuel target cs = some (doc, moved)) :
    (∀ d, doc ≤ d → findAll moved d = findAll cs d) ∧
      (allAhead moved).Sublist (allAhead cs) := by
  induction fuel generalizing target cs with
  | zero => simp [settle] at settled
  | succ fuel ih =>
    rw [settle] at settled
    cases swept : sweep target cs with
    | none => simp [swept] at settled
    | some result =>
      obtain ⟨reached, others⟩ := result
      have orderedOthers := sweep_kept kept_ordered ordered swept
      simp only [swept] at settled
      split at settled
      · obtain ⟨rfl, rfl⟩ : reached = doc ∧ others = moved := by simpa using settled
        exact ⟨fun d le => findAll_sweep ordered swept le, allAhead_sweep ordered swept⟩
      · obtain ⟨later, fewer⟩ := ih orderedOthers settled
        have raised : reached ≤ doc :=
          (settle_spec kept_ordered (fun _ ordered => ordered) orderedOthers settled).1
        exact ⟨fun d le => (later d le).trans (findAll_sweep ordered swept (raised.trans le)),
          fewer.trans (allAhead_sweep ordered swept)⟩

/-- Cursors that have a document ahead settle on one that is not behind it. -/
theorem exists_settle {fuel : Nat} (ordered : AllOrdered cs) (le : target ≤ d)
    (common : Common cs d) (enough : (allAhead cs).countP (fun p => target < p.doc) < fuel) :
    ∃ doc moved, settle fuel target cs = some (doc, moved) ∧ doc ≤ d := by
  induction fuel generalizing target cs with
  | zero => exact absurd enough (Nat.not_lt_zero _)
  | succ fuel ih =>
    obtain ⟨doc, moved, swept, before⟩ := exists_sweep ordered le common
    rw [settle, swept]
    dsimp only
    split
    · exact ⟨doc, moved, rfl, before⟩
    · rename_i raised
      have later : target < doc := Nat.lt_of_le_of_ne (le_of_sweep ordered swept) (Ne.symm raised)
      have fewer := countP_later_lt later ((exists_doc_of_sweep ordered swept).resolve_left raised)
      have kept : Common moved d := by
        rwa [Common, findAll_sweep ordered swept before]
      exact ih (sweep_kept kept_ordered ordered swept) before kept
        (Nat.lt_of_le_of_lt ((allAhead_sweep ordered swept).countP_le)
          (Nat.lt_of_lt_of_le fewer (Nat.le_of_lt_succ enough)))

/-- Aligning loses nothing from the common document on, and moves no cursor back. -/
theorem findAll_align (ordered : AllOrdered (c :: cs))
    (aligned : align (c :: cs) = some (doc, moved)) :
    (∀ d, doc ≤ d → findAll moved d = findAll (c :: cs) d) ∧
      (allAhead moved).Sublist (allAhead (c :: cs)) := by
  rw [align] at aligned
  cases at_target : c.doc? with
  | none => simp [at_target] at aligned
  | some target =>
    simp only [at_target] at aligned
    exact findAll_settle ordered aligned

/-- Cursors that have a document ahead are aligned at one that is not behind it. -/
theorem exists_align (ordered : AllOrdered (c :: cs)) (common : Common (c :: cs) d) :
    ∃ doc moved, align (c :: cs) = some (doc, moved) ∧ doc ≤ d := by
  have first := (common_cons.1 common).1
  obtain ⟨target, at_target⟩ := exists_doc?_of_find?_isSome first
  rw [align, at_target]
  refine exists_settle ordered
    (le_of_find?_isSome (allOrdered_cons.1 ordered).1 at_target first) common ?_
  rw [totalRemaining_eq_length]
  exact Nat.lt_succ_of_le List.countP_le_length

/-! ### Fresh cursors -/

/-- A cursor at the beginning of one of increasing postings. -/
structure Fresh (c : Cursor) : Prop where
  /-- The documents ahead increase. -/
  increasing : Increasing c.rest
  /-- No position of the current posting has been passed. -/
  positions_eq : c.positions = firstPositions c.rest

theorem fresh_start {l : InvertedList} (increasing : Increasing l.postings) :
    (start l).Fresh := ⟨increasing, rfl⟩

theorem kept_fresh : Kept Fresh := by
  intro c d fresh
  have suffix := rest_advanceTo_suffix fresh.increasing.ordered d
  refine ⟨fresh.increasing.sublist suffix.sublist, ?_⟩
  unfold advanceTo advanceWhile
  dsimp only
  split
  · rfl
  · exact fresh.positions_eq

theorem Fresh.positions_eq_of_doc? (fresh : c.Fresh) (at_doc : c.doc? = some doc) :
    c.positions = Posting.positionsOf (c.find? doc) := by
  rw [find?_eq_posting? at_doc, fresh.positions_eq, posting?]
  cases c.rest <;> rfl

/-- Cursors at a document have it in common, with their own positions. -/
theorem common_of_at (all_at : ∀ m ∈ moved, m.Fresh ∧ m.doc? = some doc) :
    Common moved doc ∧
      (findAll moved doc).map Posting.positionsOf = moved.map Cursor.positions := by
  refine ⟨List.forall_mem_map.2 fun m member => ?_, ?_⟩
  · obtain ⟨p, head, -⟩ := doc?_eq_some (all_at m member).2
    rw [find?_eq_posting? (all_at m member).2, posting?, head]
    rfl
  · rw [findAll, List.map_map]
    refine List.map_congr_left fun m member => ?_
    exact ((all_at m member).1.positions_eq_of_doc? (all_at m member).2).symm

end Cursor

namespace Merge

open Cursor

variable {occurrences : List (List Nat) → List Nat} {c : Cursor} {cs moved : List Cursor}
  {doc d : DocId} {p : Posting}

/-! ### Leaving a common document -/

theorem findAll_leaveFirst (ordered : AllOrdered cs) (later : doc < d) :
    findAll (leaveFirst doc cs) d = findAll cs d := by
  cases cs with
  | nil => rfl
  | cons c cs =>
    rw [leaveFirst, advancePast_eq_advanceTo]
    exact congrArg₂ List.cons (find?_advanceTo (allOrdered_cons.1 ordered).1 later) rfl

/-- Once the first cursor has left a document, no document up to it is common. -/
theorem not_common_leaveFirst (ordered : AllOrdered (c :: cs)) (reached : d ≤ doc) :
    ¬ Common (leaveFirst doc (c :: cs)) d := by
  intro common
  rw [leaveFirst, advancePast_eq_advanceTo, common_cons,
    find?_advanceTo_eq_none (allOrdered_cons.1 ordered).1 (Nat.lt_succ_of_le reached)] at common
  simp at common

/-- Leaving a common document leaves postings behind. -/
theorem totalRemaining_leaveFirst_lt (ordered : AllOrdered (c :: cs))
    (at_doc : c.doc? = some doc) :
    totalRemaining (leaveFirst doc (c :: cs)) < totalRemaining (c :: cs) := by
  have shorter : (c.advancePast doc).rest.length < c.rest.length := by
    obtain ⟨p, head, rfl⟩ := doc?_eq_some at_doc
    have sub := (rest_advanceTo_suffix (allOrdered_cons.1 ordered).1 (p.doc + 1)).sublist
    rw [advancePast_eq_advanceTo]
    refine Nat.lt_of_le_of_ne sub.length_le fun same => ?_
    -- the posting that the cursor was at is no longer ahead
    have kept : p ∈ (c.advanceTo (p.doc + 1)).rest := by
      rw [sub.eq_of_length same]
      exact List.mem_of_head? head
    exact absurd (le_of_mem_rest_advanceTo (allOrdered_cons.1 ordered).1 kept)
      (Nat.not_succ_le_self p.doc)
  rw [leaveFirst, totalRemaining_eq_length, totalRemaining_eq_length, allAhead_cons,
    allAhead_cons, List.length_append, List.length_append]
  exact Nat.add_lt_add_right shorter _

/-! ### Common documents -/

/-- A posting that an intersection has to report: all cursors have its document ahead, and its
positions are those that occur there. -/
structure Reported (occurrences : List (List Nat) → List Nat) (cs : List Cursor) (p : Posting) :
    Prop where
  /-- All cursors have the document ahead. -/
  common : Common cs p.doc
  /-- The positions are the occurrences among those of the cursors. -/
  positions_eq : p.positions = occurrences ((findAll cs p.doc).map Posting.positionsOf)
  /-- There are some. -/
  positions_ne_nil : p.positions ≠ []

theorem reported_congr (same : findAll moved p.doc = findAll cs p.doc) :
    Reported occurrences moved p ↔ Reported occurrences cs p := by
  constructor
  · rintro ⟨common, positions_eq, positions_ne_nil⟩
    exact ⟨by rwa [Common, ← same], by rwa [← same], positions_ne_nil⟩
  · rintro ⟨common, positions_eq, positions_ne_nil⟩
    exact ⟨by rwa [Common, same], by rwa [same], positions_ne_nil⟩

/-- What has to be reported of aligned cursors is the posting of their document, if it has
occurrences, and what has to be reported once the first cursor has left it. -/
theorem reported_iff_of_at {m : Cursor} {ms : List Cursor}
    (all_at : ∀ n ∈ m :: ms, n.Fresh ∧ n.doc? = some doc) :
    (doc ≤ p.doc ∧ Reported occurrences (m :: ms) p) ↔
      (occurrences ((m :: ms).map Cursor.positions) ≠ [] ∧
        p = ⟨doc, occurrences ((m :: ms).map Cursor.positions)⟩) ∨
          Reported occurrences (leaveFirst doc (m :: ms)) p := by
  have ordered : AllOrdered (m :: ms) := fun n member => (all_at n member).1.increasing.ordered
  obtain ⟨common, positions⟩ := common_of_at all_at
  constructor
  · rintro ⟨reached, reported⟩
    rcases Nat.eq_or_lt_of_le reached with rfl | later
    · have found := reported.positions_eq
      rw [positions] at found
      exact .inl ⟨found ▸ reported.positions_ne_nil, by rw [← found]⟩
    · exact .inr ((reported_congr (findAll_leaveFirst ordered later)).2 reported)
  · rintro (⟨found, rfl⟩ | reported)
    · exact ⟨Nat.le_refl doc, common, by rw [positions], found⟩
    · have later : doc < p.doc := by
        by_contra reached
        exact not_common_leaveFirst ordered (Nat.le_of_not_lt reached) reported.common
      exact ⟨Nat.le_of_lt later,
        (reported_congr (findAll_leaveFirst ordered later)).1 reported⟩

/-- Cursors are aligned at their first common document, so what has to be reported of them has
to be reported once they are aligned. -/
theorem reported_iff_of_align (ordered : AllOrdered (c :: cs))
    (aligned : align (c :: cs) = some (doc, moved)) :
    Reported occurrences (c :: cs) p ↔ doc ≤ p.doc ∧ Reported occurrences moved p := by
  obtain ⟨kept, -⟩ := findAll_align ordered aligned
  constructor
  · intro reported
    obtain ⟨first, others, found, reached⟩ := exists_align ordered reported.common
    obtain ⟨rfl, rfl⟩ := Prod.mk.inj (Option.some.inj (aligned.symm.trans found))
    exact ⟨reached, (reported_congr (kept p.doc reached)).2 reported⟩
  · rintro ⟨reached, reported⟩
    exact (reported_congr (kept p.doc reached)).1 reported

/-- Nothing has to be reported of a cursor without postings ahead. -/
theorem not_reported_of_rest_eq_nil (exhausted : c.rest = []) :
    ¬ Reported occurrences (c :: cs) p := by
  intro reported
  obtain ⟨q, member, -⟩ := exists_of_find?_isSome (common_cons.1 reported.common).1
  rw [exhausted] at member
  simp at member

/-- An intersection reports what it has to report. -/
theorem mem_intersect_iff {fuel : Nat} (fresh : ∀ c ∈ cs, c.Fresh) (nonempty : cs ≠ [])
    (enough : totalRemaining cs ≤ fuel) :
    p ∈ intersect occurrences fuel cs ↔ Reported occurrences cs p := by
  induction fuel generalizing cs with
  | zero =>
    obtain ⟨c, cs, rfl⟩ := List.exists_cons_of_ne_nil nonempty
    rw [totalRemaining_eq_length, Nat.le_zero, List.length_eq_zero_iff, allAhead_cons] at enough
    simp [intersect, not_reported_of_rest_eq_nil (List.append_eq_nil_iff.1 enough).1]
  | succ fuel ih =>
    obtain ⟨c, cs, rfl⟩ := List.exists_cons_of_ne_nil nonempty
    have ordered : AllOrdered (c :: cs) := fun n hn => (fresh n hn).increasing.ordered
    rw [intersect]
    cases aligned : align (c :: cs) with
    | none =>
      simp only [List.not_mem_nil, false_iff]
      intro reported
      obtain ⟨doc, moved, found, -⟩ := exists_align ordered reported.common
      simp [aligned] at found
    | some result =>
      obtain ⟨doc, moved⟩ := result
      obtain ⟨-, all_at⟩ :=
        align_spec kept_fresh (fun _ fresh => fresh.increasing.ordered) fresh aligned
      obtain ⟨kept, fewer⟩ := findAll_align ordered aligned
      have same_length : moved.length = (c :: cs).length := by
        simpa [findAll] using congrArg List.length (kept doc (Nat.le_refl doc))
      obtain ⟨m, ms, rfl⟩ := List.exists_cons_of_length_eq_add_one same_length
      have orderedMoved : AllOrdered (m :: ms) := fun n hn => (all_at n hn).1.increasing.ordered
      have behind : totalRemaining (leaveFirst doc (m :: ms)) < totalRemaining (c :: cs) := by
        refine Nat.lt_of_lt_of_le
          (totalRemaining_leaveFirst_lt orderedMoved (all_at m List.mem_cons_self).2) ?_
        rw [totalRemaining_eq_length, totalRemaining_eq_length]
        exact fewer.length_le
      have later := ih (leaveFirst_kept kept_fresh doc fun n hn => (all_at n hn).1)
        (List.cons_ne_nil _ _) (Nat.le_of_lt_succ (Nat.lt_of_lt_of_le behind enough))
      rw [reported_iff_of_align ordered aligned, reported_iff_of_at all_at, ← later]
      dsimp only
      generalize occurrences ((m :: ms).map Cursor.positions) = found
      cases found with
      | nil => simp
      | cons position positions => simp

/-- Of some lists, the documents that all of them hold are reported, with the positions that
occur among those of the lists. -/
theorem mem_common_iff {lists : List InvertedList} (nonempty : lists ≠ [])
    (increasing : ∀ l ∈ lists, Increasing l.postings) :
    p ∈ common occurrences lists ↔
      (∀ l ∈ lists, (l.posting? p.doc).isSome) ∧
        p.positions = occurrences (lists.map fun l => l.positionsIn p.doc) ∧
          p.positions ≠ [] := by
  have found : findAll (lists.map Cursor.start) p.doc =
      lists.map fun l => l.posting? p.doc := by
    rw [findAll, List.map_map]
    rfl
  have fresh : ∀ c ∈ lists.map Cursor.start, c.Fresh :=
    List.forall_mem_map.2 fun l hl => fresh_start (increasing l hl)
  rw [common, mem_intersect_iff fresh (by simpa using nonempty) (Nat.le_refl _)]
  constructor
  · rintro ⟨common, positions_eq, positions_ne_nil⟩
    rw [Common, found] at common
    rw [found, List.map_map] at positions_eq
    exact ⟨List.forall_mem_map.1 common, positions_eq, positions_ne_nil⟩
  · rintro ⟨common, positions_eq, positions_ne_nil⟩
    refine ⟨?_, ?_, positions_ne_nil⟩
    · rw [Common, found]
      exact List.forall_mem_map.2 common
    · rw [found, List.map_map]
      exact positions_eq

end Merge

end RankedRetrieval
