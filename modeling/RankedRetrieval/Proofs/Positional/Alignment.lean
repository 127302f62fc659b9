import Mathlib.Order.Bounds.Basic
import RankedRetrieval.Proofs.Positional.Agreement

/-!
# Alignment of cursors

Cursors are swept until they agree.  However many sweeps that takes, it comes to an end, at the
least document that all of them have ahead.

## Main Definitions

* `Cursor.Sweeps`, `Cursor.Aligns` — aligning without a bound on the number of sweeps
* `Cursor.allHold` — the documents that all of some cursors have ahead
* `Cursor.Meets` — cursors at the least document that all of them have ahead

## Main Results

* `Cursor.aligns_align` — aligning comes to an end
* `Cursor.meets_align` — and finds the least common document, if there is one

## Design Notes

`Cursor.align` bounds the number of sweeps by the postings that are ahead.  `Sweeps` has no such
bound: each of its derivations is a run that ends.  That the two yield the same result says that the
bound never cuts a run short.
-/

namespace RankedRetrieval.Cursor

variable {c : Cursor} {cs moved : List Cursor} {doc d target : DocId}
  {result : Option (DocId × List Cursor)}

/-! ### Sweeps without a bound -/

/-- Sweeps from a target on, until a cursor is exhausted or the target is no longer raised. -/
inductive Sweeps : DocId → List Cursor → Option (DocId × List Cursor) → Prop where
  /-- A cursor is exhausted. -/
  | exhausted {target : DocId} {cs : List Cursor} (stopped : sweep target cs = none) :
      Sweeps target cs none
  /-- All cursors are at the target. -/
  | agreed {target : DocId} {cs moved : List Cursor}
      (swept : sweep target cs = some (target, moved)) : Sweeps target cs (some (target, moved))
  /-- The target has been raised, and the cursors are swept again. -/
  | raised {target doc : DocId} {cs moved : List Cursor} {result : Option (DocId × List Cursor)}
      (swept : sweep target cs = some (doc, moved)) (later : target < doc)
      (further : Sweeps doc moved result) : Sweeps target cs result

/-- Sweeps of cursors from the document on that the first of them is at. -/
inductive Aligns : List Cursor → Option (DocId × List Cursor) → Prop where
  /-- The first cursor is exhausted. -/
  | exhausted {c : Cursor} {cs : List Cursor} (at_end : c.doc? = none) : Aligns (c :: cs) none
  /-- The first cursor gives the target. -/
  | sweeping {c : Cursor} {cs : List Cursor} {target : DocId}
      {result : Option (DocId × List Cursor)} (at_target : c.doc? = some target)
      (sweeps : Sweeps target (c :: cs) result) : Aligns (c :: cs) result

/-- With a bound above the number of postings behind the target, sweeps end by themselves. -/
theorem sweeps_settle {fuel : Nat} (ordered : AllOrdered cs)
    (enough : (allAhead cs).countP (fun p => target < p.doc) < fuel) :
    Sweeps target cs (settle fuel target cs) := by
  induction fuel generalizing target cs with
  | zero => exact absurd enough (Nat.not_lt_zero _)
  | succ fuel ih =>
    rw [settle]
    cases swept : sweep target cs with
    | none => exact .exhausted swept
    | some result =>
      obtain ⟨doc, moved⟩ := result
      dsimp only
      split
      · rename_i same
        subst same
        exact .agreed swept
      · -- every further sweep has fewer postings behind its target
        rename_i raised
        have later : target < doc :=
          Nat.lt_of_le_of_ne (le_of_sweep ordered swept) (Ne.symm raised)
        have fewer :=
          countP_later_lt later ((exists_doc_of_sweep ordered swept).resolve_left raised)
        exact .raised swept later (ih (sweep_kept kept_ordered ordered swept)
          (Nat.lt_of_le_of_lt (allAhead_sweep ordered swept).countP_le
            (Nat.lt_of_lt_of_le fewer (Nat.le_of_lt_succ enough))))

/-- Aligning cursors over ordered postings comes to an end. -/
theorem aligns_align (nonempty : cs ≠ []) (ordered : AllOrdered cs) : Aligns cs (align cs) := by
  cases cs with
  | nil => exact absurd rfl nonempty
  | cons c cs =>
    rw [align]
    cases at_target : c.doc? with
    | none => exact .exhausted at_target
    | some target =>
      refine .sweeping at_target (sweeps_settle ordered ?_)
      rw [totalRemaining_eq_length]
      exact Nat.lt_succ_of_le List.countP_le_length

/-! ### Where the cursors are -/

/-- On an ordered list, a cursor either stays, or starts anew behind the documents before the
target. -/
theorem advanceTo_eq (ordered : Ordered c.rest) (d : DocId) :
    c.advanceTo d =
      if (c.rest.dropWhile fun p => p.doc < d).length < c.rest.length then
        ⟨c.list, c.rest.dropWhile fun p => p.doc < d,
          firstPositions (c.rest.dropWhile fun p => p.doc < d)⟩
      else c := by
  unfold advanceTo advanceWhile
  dsimp only
  rw [skipPassed_doc ordered]

/-- Moving to a document on the way to another one makes no difference. -/
theorem advanceTo_advanceTo (ordered : Ordered c.rest) (le : target ≤ d) :
    (c.advanceTo target).advanceTo d = c.advanceTo d := by
  have further : (c.rest.dropWhile fun p => p.doc < target).dropWhile (fun p => p.doc < d) =
      c.rest.dropWhile fun p => p.doc < d := by
    rw [dropWhile_dropWhile, max_eq_right le]
  have suffix : (c.rest.dropWhile fun p => p.doc < d) <:+
      c.rest.dropWhile fun p => p.doc < target := by
    rw [← further]
    exact List.dropWhile_suffix _
  have ordered_after := ordered.sublist (List.dropWhile_sublist fun p => decide (p.doc < target))
  rw [advanceTo_eq ordered target]
  split
  · rename_i shorter
    rw [advanceTo_eq ordered_after, advanceTo_eq ordered,
      if_pos (Nat.lt_of_le_of_lt suffix.length_le shorter)]
    dsimp only
    rw [further]
    split
    · rfl
    · -- the second move drops nothing more
      rename_i full
      rw [suffix.eq_of_length_le (Nat.le_of_not_lt full)]
  · rfl

/-- A cursor stays where it is when it is moved to its document. -/
theorem advanceTo_self (ordered : Ordered c.rest) (at_doc : c.doc? = some doc) :
    c.advanceTo doc = c := by
  obtain ⟨p, head, rfl⟩ := doc?_eq_some at_doc
  obtain ⟨rest, split⟩ := List.head?_eq_some_iff.1 head
  rw [advanceTo_eq ordered, split, List.dropWhile_cons_of_neg (by simp),
    if_neg (Nat.lt_irrefl _)]

/-- Sweeping is moving as far as one later document asks for. -/
theorem map_advanceTo_sweep (ordered : AllOrdered cs)
    (swept : sweep target cs = some (doc, moved)) (le : doc ≤ d) :
    moved.map (fun c => c.advanceTo d) = cs.map fun c => c.advanceTo d := by
  induction cs generalizing target moved with
  | nil =>
    obtain ⟨-, rfl⟩ : target = doc ∧ [] = moved := by simpa [sweep] using swept
    rfl
  | cons c cs ih =>
    obtain ⟨orderedHead, orderedTail⟩ := allOrdered_cons.1 ordered
    obtain ⟨next, others, met, further, rfl⟩ := sweep_cons.1 swept
    have reached : target ≤ doc :=
      Nat.le_trans (le_of_met orderedHead met) (le_of_sweep orderedTail further)
    rw [List.map_cons, List.map_cons, ih orderedTail further,
      advanceTo_advanceTo orderedHead (Nat.le_trans reached le)]

/-- Sweeps that end in an agreement have moved all cursors to its document. -/
theorem Sweeps.moved_eq (sweeps : Sweeps target cs (some (doc, moved))) (ordered : AllOrdered cs) :
    target ≤ doc ∧ moved = cs.map (fun c => c.advanceTo doc) ∧ ∀ m ∈ moved, m.doc? = some doc := by
  generalize same : some (doc, moved) = result at sweeps
  induction sweeps with
  | exhausted => cases same
  | @agreed target cs others swept =>
    obtain ⟨rfl, rfl⟩ : doc = target ∧ moved = others := by simpa using same
    have all_at := at_of_sweep ordered swept
    have stayed : moved.map (fun c => c.advanceTo doc) = moved := by
      refine (List.map_congr_left fun m member => ?_).trans (List.map_id moved)
      exact advanceTo_self (sweep_kept kept_ordered ordered swept m member) (all_at m member)
    refine ⟨Nat.le_refl doc, ?_, all_at⟩
    rw [← map_advanceTo_sweep ordered swept (Nat.le_refl doc), stayed]
  | raised swept later _ ih =>
    obtain ⟨le, moved_eq, all_at⟩ := ih (sweep_kept kept_ordered ordered swept) same
    refine ⟨Nat.le_trans (Nat.le_of_lt later) le, ?_, all_at⟩
    rw [moved_eq, map_advanceTo_sweep ordered swept le]

/-! ### The least common document -/

/-- The documents that all of some cursors have ahead. -/
def allHold (cs : List Cursor) : Set DocId :=
  {doc | ∀ c ∈ cs, ∃ p ∈ c.rest, p.doc = doc}

theorem mem_allHold_iff : d ∈ allHold cs ↔ Common cs d := by
  simp [allHold, Common, findAll, find?]

/-- What aligning some cursors has to yield: nothing when they have no document in common, and else
the least one, with every cursor moved to it. -/
def Meets (cs : List Cursor) : Option (DocId × List Cursor) → Prop
  | none => allHold cs = ∅
  | some (doc, moved) =>
    IsLeast (allHold cs) doc ∧ moved = cs.map (fun c => c.advanceTo doc) ∧
      ∀ m ∈ moved, m.doc? = some doc

/-- Aligning cursors over ordered postings finds their least common document. -/
theorem meets_align (nonempty : cs ≠ []) (ordered : AllOrdered cs) : Meets cs (align cs) := by
  obtain ⟨c, cs, rfl⟩ := List.exists_cons_of_ne_nil nonempty
  have aligns := aligns_align nonempty ordered
  cases aligned : align (c :: cs) with
  | none =>
    refine Set.eq_empty_of_forall_notMem fun d held => ?_
    obtain ⟨doc, moved, found, -⟩ := exists_align ordered (mem_allHold_iff.1 held)
    rw [aligned] at found
    cases found
  | some result =>
    obtain ⟨doc, moved⟩ := result
    rw [aligned] at aligns
    cases aligns with
    | sweeping _ sweeps =>
      obtain ⟨-, moved_eq, all_at⟩ := sweeps.moved_eq ordered
      refine ⟨⟨fun c' member => ?_, fun d held => ?_⟩, moved_eq, all_at⟩
      · have at_doc : (c'.advanceTo doc).doc? = some doc :=
          all_at _ (moved_eq ▸ List.mem_map_of_mem member)
        obtain ⟨p, head, doc_eq⟩ := doc?_eq_some at_doc
        have suffix := rest_advanceTo_suffix (ordered c' member) doc
        exact ⟨p, suffix.subset (List.mem_of_head? head), doc_eq⟩
      · obtain ⟨other, others, found, le⟩ := exists_align ordered (mem_allHold_iff.1 held)
        obtain ⟨rfl, -⟩ : doc = other ∧ moved = others := by simpa [aligned] using found
        exact le

end RankedRetrieval.Cursor
