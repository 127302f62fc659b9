import RankedRetrieval.Positional.Merge
import RankedRetrieval.Proofs.Positional.Movement

/-!
# Order of merged lists

What positional operators make of ordered lists is increasing: every document that is reported
lies behind the ones before.

## Main Definitions

* `Cursor.Kept` — a property that cursors do not lose when they are moved
* `Cursor.AllOrdered` — cursors with nothing but ordered postings ahead

## Main Results

* `Cursor.align_spec` — aligned cursors are at one document, and not behind the first of them
* `Merge.synonym_increasing`, `Merge.common_increasing` — merged postings increase

## Design Notes

Merging moves cursors with `advanceTo` only.  Whatever every such move keeps is kept by a sweep,
by an alignment and by leaving a document.
-/

namespace RankedRetrieval

namespace Cursor

/-- A property that cursors keep when they are moved to a document. -/
def Kept (holds : Cursor → Prop) : Prop :=
  ∀ c d, holds c → holds (c.advanceTo d)

/-- What is ahead of each of some cursors is ordered. -/
def AllOrdered (cs : List Cursor) : Prop :=
  ∀ c ∈ cs, Ordered c.rest

theorem kept_ordered : Kept fun c => Ordered c.rest :=
  fun _ d ordered => ordered_advanceTo ordered d

theorem allOrdered_start {lists : List InvertedList}
    (ordered : ∀ l ∈ lists, Ordered l.postings) : AllOrdered (lists.map Cursor.start) := by
  intro c member
  obtain ⟨l, hl, rfl⟩ := List.mem_map.1 member
  exact ordered l hl

theorem allOrdered_cons {c : Cursor} {cs : List Cursor} :
    AllOrdered (c :: cs) ↔ Ordered c.rest ∧ AllOrdered cs :=
  List.forall_mem_cons

/-! ### Sweeps -/

/-- A sweep moves the first cursor to its target and goes on with the document that it meets. -/
theorem sweep_cons {target doc : DocId} {c : Cursor} {cs moved : List Cursor} :
    sweep target (c :: cs) = some (doc, moved) ↔
      ∃ next others, (c.advanceTo target).doc? = some next ∧
        sweep next cs = some (doc, others) ∧ c.advanceTo target :: others = moved := by
  rw [sweep]
  cases (c.advanceTo target).doc? with
  | none => simp
  | some next =>
    simp only [Option.map_eq_some_iff, Prod.exists, Option.some.injEq]
    constructor
    · rintro ⟨last, others, further, same⟩
      obtain ⟨rfl, rfl⟩ := Prod.mk.inj same
      exact ⟨next, others, rfl, further, rfl⟩
    · rintro ⟨_, others, rfl, further, rfl⟩
      exact ⟨doc, others, further, rfl⟩

theorem sweep_kept {holds : Cursor → Prop} (kept : Kept holds) {target doc : DocId}
    {cs moved : List Cursor} (all : ∀ c ∈ cs, holds c)
    (swept : sweep target cs = some (doc, moved)) : ∀ m ∈ moved, holds m := by
  induction cs generalizing target moved with
  | nil =>
    obtain ⟨-, rfl⟩ : target = doc ∧ [] = moved := by simpa [sweep] using swept
    exact all
  | cons c cs ih =>
    obtain ⟨first, rest⟩ := List.forall_mem_cons.1 all
    obtain ⟨next, others, -, further, rfl⟩ := sweep_cons.1 swept
    exact List.forall_mem_cons.2 ⟨kept c target first, ih rest further⟩

/-- A cursor is met at no document before the target. -/
theorem le_of_met {c : Cursor} {target doc : DocId} (ordered : Ordered c.rest)
    (met : (c.advanceTo target).doc? = some doc) : target ≤ doc := by
  obtain ⟨p, head, rfl⟩ := doc?_eq_some met
  exact le_of_mem_rest_advanceTo ordered (List.mem_of_head? head)

/-- A sweep never lowers its target. -/
theorem le_of_sweep {target doc : DocId} {cs moved : List Cursor} (ordered : AllOrdered cs)
    (swept : sweep target cs = some (doc, moved)) : target ≤ doc := by
  induction cs generalizing target moved with
  | nil =>
    obtain ⟨rfl, -⟩ : target = doc ∧ [] = moved := by simpa [sweep] using swept
    exact Nat.le_refl target
  | cons c cs ih =>
    obtain ⟨orderedHead, orderedTail⟩ := allOrdered_cons.1 ordered
    obtain ⟨next, others, met, further, -⟩ := sweep_cons.1 swept
    exact Nat.le_trans (le_of_met orderedHead met) (ih orderedTail further)

/-- A sweep that does not raise its target has met it at every cursor. -/
theorem at_of_sweep {doc : DocId} {cs moved : List Cursor} (ordered : AllOrdered cs)
    (swept : sweep doc cs = some (doc, moved)) : ∀ m ∈ moved, m.doc? = some doc := by
  induction cs generalizing moved with
  | nil =>
    obtain rfl : [] = moved := by simpa [sweep] using swept
    simp
  | cons c cs ih =>
    obtain ⟨orderedHead, orderedTail⟩ := allOrdered_cons.1 ordered
    obtain ⟨next, others, met, further, rfl⟩ := sweep_cons.1 swept
    -- the target went from the document to `next` and back, and it only grows
    obtain rfl : doc = next :=
      Nat.le_antisymm (le_of_met orderedHead met) (le_of_sweep orderedTail further)
    exact List.forall_mem_cons.2 ⟨met, ih orderedTail further⟩

/-! ### Agreement -/

theorem settle_spec {holds : Cursor → Prop} (kept : Kept holds)
    (ordered : ∀ c, holds c → Ordered c.rest) {fuel : Nat} {target doc : DocId}
    {cs moved : List Cursor} (all : ∀ c ∈ cs, holds c)
    (settled : settle fuel target cs = some (doc, moved)) :
    target ≤ doc ∧ ∀ m ∈ moved, holds m ∧ m.doc? = some doc := by
  induction fuel generalizing target cs with
  | zero => simp [settle] at settled
  | succ fuel ih =>
    have all_ordered : AllOrdered cs := fun c hc => ordered c (all c hc)
    unfold settle at settled
    cases swept : sweep target cs with
    | none => simp [swept] at settled
    | some result =>
      obtain ⟨reached, others⟩ := result
      have others_kept := sweep_kept kept all swept
      simp only [swept] at settled
      split at settled
      · rename_i same
        obtain ⟨rfl, rfl⟩ : reached = doc ∧ others = moved := by simpa using settled
        subst same
        exact ⟨Nat.le_refl _, fun m hm => ⟨others_kept m hm, at_of_sweep all_ordered swept m hm⟩⟩
      · obtain ⟨le, rest⟩ := ih others_kept settled
        exact ⟨Nat.le_trans (le_of_sweep all_ordered swept) le, rest⟩

/-- Aligned cursors are at one document, which is not before the one the first of them was at. -/
theorem align_spec {holds : Cursor → Prop} (kept : Kept holds)
    (ordered : ∀ c, holds c → Ordered c.rest) {c : Cursor} {cs moved : List Cursor}
    {doc : DocId} (all : ∀ c' ∈ c :: cs, holds c')
    (aligned : align (c :: cs) = some (doc, moved)) :
    (∃ target, c.doc? = some target ∧ target ≤ doc) ∧
      ∀ m ∈ moved, holds m ∧ m.doc? = some doc := by
  unfold align at aligned
  cases at_target : c.doc? with
  | none => simp [at_target] at aligned
  | some target =>
    simp only [at_target] at aligned
    obtain ⟨le, rest⟩ := settle_spec kept ordered all aligned
    exact ⟨⟨target, rfl, le⟩, rest⟩

end Cursor

namespace Merge

/-! ### Occurrences of any list -/

theorem leave_kept {holds : Cursor → Prop} (kept : Cursor.Kept holds) (doc : DocId)
    {cs : List Cursor} (all : ∀ c ∈ cs, holds c) : ∀ c ∈ leave doc cs, holds c := by
  intro c member
  obtain ⟨before, hc, rfl⟩ := List.mem_map.1 member
  split
  · rw [Cursor.advancePast_eq_advanceTo]
    exact kept before _ (all before hc)
  · exact all before hc

theorem leastDoc?_le {cs : List Cursor} {doc other : DocId} (least : leastDoc? cs = some doc)
    {c : Cursor} (member : c ∈ cs) (at_other : c.doc? = some other) : doc ≤ other :=
  (List.min?_eq_some_iff.1 least).2 other (List.mem_filterMap.2 ⟨c, member, at_other⟩)

/-- Nothing that cursors have left behind them is ahead. -/
theorem lt_of_mem_leave {doc : DocId} {cs : List Cursor} (ordered : Cursor.AllOrdered cs)
    (least : leastDoc? cs = some doc) {c : Cursor} (member : c ∈ leave doc cs) {p : Posting}
    (ahead : p ∈ c.rest) : doc + 1 ≤ p.doc := by
  obtain ⟨before, hc, rfl⟩ := List.mem_map.1 member
  split at ahead
  · rw [Cursor.advancePast_eq_advanceTo] at ahead
    exact Cursor.le_of_mem_rest_advanceTo (ordered before hc) ahead
  · rename_i elsewhere
    cases at_other : before.doc? with
    | none => rw [Cursor.rest_eq_nil at_other] at ahead; simp at ahead
    | some other =>
      have le := leastDoc?_le least hc at_other
      have ne : doc ≠ other := fun same => elsewhere (same ▸ at_other)
      exact Nat.le_trans (Nat.lt_of_le_of_ne le ne)
        (Cursor.le_of_mem_rest (ordered before hc) at_other ahead)

/-- The postings that are united lie behind one another, and none before a bound that all
cursors have reached. -/
theorem unite_spec (fuel : Nat) {cs : List Cursor} {bound : DocId}
    (ordered : Cursor.AllOrdered cs) (reached : ∀ c ∈ cs, ∀ p ∈ c.rest, bound ≤ p.doc) :
    Increasing (unite fuel cs) ∧ ∀ p ∈ unite fuel cs, bound ≤ p.doc := by
  induction fuel generalizing cs bound with
  | zero => simp [unite, Increasing]
  | succ fuel ih =>
    unfold unite
    cases least : leastDoc? cs with
    | none => simp [Increasing]
    | some doc =>
      -- the bound rises past the least document, which all cursors leave
      obtain ⟨increasing, later⟩ :=
        ih (leave_kept Cursor.kept_ordered doc ordered)
          fun c hc p hp => lt_of_mem_leave ordered least hc hp
      obtain ⟨c, hc, at_doc⟩ := List.mem_filterMap.1 (List.min?_mem least)
      obtain ⟨first, head, rfl⟩ := Cursor.doc?_eq_some at_doc
      have start := reached c hc first (List.mem_of_head? head)
      refine ⟨List.pairwise_cons.2 ⟨later, increasing⟩, ?_⟩
      intro p member
      rcases List.mem_cons.1 member with rfl | member
      · exact start
      · exact Nat.le_trans start (Nat.le_of_succ_le (later p member))

theorem synonym_increasing {lists : List InvertedList}
    (ordered : ∀ l ∈ lists, Ordered l.postings) : Increasing (synonym lists) :=
  (unite_spec _ (Cursor.allOrdered_start ordered) fun _ _ _ _ => Nat.zero_le _).1

/-! ### Occurrences of all lists -/

theorem leaveFirst_kept {holds : Cursor → Prop} (kept : Cursor.Kept holds) (doc : DocId)
    {cs : List Cursor} (all : ∀ c ∈ cs, holds c) : ∀ c ∈ leaveFirst doc cs, holds c := by
  cases cs with
  | nil => exact all
  | cons c cs =>
    obtain ⟨first, rest⟩ := List.forall_mem_cons.1 all
    rw [leaveFirst, Cursor.advancePast_eq_advanceTo]
    exact List.forall_mem_cons.2 ⟨kept c _ first, rest⟩

/-- The postings that are common lie behind one another, and none before a bound that the first
cursor has reached. -/
theorem intersect_spec (occurrences : List (List Nat) → List Nat) (fuel : Nat)
    {cs : List Cursor} {bound : DocId} (ordered : Cursor.AllOrdered cs)
    (reached : ∀ c ∈ cs.head?, ∀ p ∈ c.rest, bound ≤ p.doc) :
    Increasing (intersect occurrences fuel cs) ∧
      ∀ p ∈ intersect occurrences fuel cs, bound ≤ p.doc := by
  induction fuel generalizing cs bound with
  | zero => simp [intersect, Increasing]
  | succ fuel ih =>
    cases cs with
    | nil => simp [intersect, Cursor.align, Increasing]
    | cons c cs =>
      unfold intersect
      cases aligned : Cursor.align (c :: cs) with
      | none => simp [Increasing]
      | some result =>
        obtain ⟨doc, moved⟩ := result
        obtain ⟨⟨target, at_target, le⟩, all_at⟩ :=
          Cursor.align_spec Cursor.kept_ordered (fun _ ordered => ordered) ordered aligned
        have orderedMoved : Cursor.AllOrdered moved := fun m hm => (all_at m hm).1
        obtain ⟨first, head, rfl⟩ := Cursor.doc?_eq_some at_target
        have start := Nat.le_trans (reached c rfl first (List.mem_of_head? head)) le
        -- it is enough that the first cursor leaves the common document
        have behind : ∀ m ∈ (leaveFirst doc moved).head?, ∀ p ∈ m.rest, doc + 1 ≤ p.doc := by
          intro m hm p hp
          cases moved with
          | nil => simp [leaveFirst] at hm
          | cons n ns =>
            obtain rfl : n.advancePast doc = m := by simpa [leaveFirst] using hm
            rw [Cursor.advancePast_eq_advanceTo] at hp
            exact Cursor.le_of_mem_rest_advanceTo (Cursor.allOrdered_cons.1 orderedMoved).1 hp
        obtain ⟨increasing, later⟩ :=
          ih (leaveFirst_kept Cursor.kept_ordered doc orderedMoved) behind
        have bounded : ∀ p ∈ intersect occurrences fuel (leaveFirst doc moved), bound ≤ p.doc :=
          fun p hp => Nat.le_trans start (Nat.le_of_succ_le (later p hp))
        dsimp only
        split
        · exact ⟨increasing, bounded⟩
        · exact ⟨List.pairwise_cons.2 ⟨later, increasing⟩,
            List.forall_mem_cons.2 ⟨start, bounded⟩⟩

theorem common_increasing (occurrences : List (List Nat) → List Nat)
    {lists : List InvertedList} (ordered : ∀ l ∈ lists, Ordered l.postings) :
    Increasing (common occurrences lists) :=
  (intersect_spec occurrences _ (Cursor.allOrdered_start ordered)
    fun _ _ _ _ => Nat.zero_le _).1

end Merge

end RankedRetrieval
