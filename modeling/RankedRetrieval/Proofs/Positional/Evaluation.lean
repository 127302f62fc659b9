import RankedRetrieval.Positional.Evaluation
import RankedRetrieval.Proofs.Outcome
import RankedRetrieval.Proofs.Positional.Soundness
import RankedRetrieval.Proofs.Query.Leaves

/-!
# Lists of positional queries

The inverted list of a positional query has increasing documents, and at every position that it
reports a stem of the query is posted in the field of the list.

## Main Definitions

* `Index.WellPosted` — what the postings of an index have to satisfy
* `Index.PostedAt` — a position at which one of some stems is posted

## Main Results

* `Query.positional_ordered` — the postings of a positional query are ordered
* `Query.field_of_mem_positionalArgs` — the arguments of an operator lie in the field of its list
* `Query.positional_sound` — the postings of a positional query are sound

## Design Notes

A merge knows nothing of the fields of its lists.  That the arguments share one field is what
lets their occurrences be named by a position alone.
-/

namespace RankedRetrieval

/-- An index whose postings are in order and have positions. -/
structure Index.WellPosted (index : Index) : Prop where
  /-- The documents of a stem increase. -/
  increasing : ∀ stem field, Increasing (index.postings stem field)
  /-- A posting has positions. -/
  positions_ne_nil : ∀ stem field, ∀ p ∈ index.postings stem field, p.positions ≠ []
  /-- They never decrease. -/
  ascending : ∀ stem field, ∀ p ∈ index.postings stem field, p.positions.Pairwise (· ≤ ·)

/-- One of some leaves lies in a field and is posted at a position of a document. -/
def Index.PostedAt (index : Index) (leaves : List (String × String)) (field : String)
    (doc : DocId) (x : Nat) : Prop :=
  ∃ stem, (stem, field) ∈ leaves ∧
    ∃ p ∈ index.postings stem field, p.doc = doc ∧ x ∈ p.positions

theorem Index.PostedAt.mono {index : Index} {leaves more : List (String × String)}
    {field : String} (subset : leaves ⊆ more) (doc : DocId) (x : Nat)
    (posted : index.PostedAt leaves field doc x) : index.PostedAt more field doc x := by
  obtain ⟨stem, member, occurs⟩ := posted
  exact ⟨stem, subset member, occurs⟩

namespace Query

variable {α : Type}

/-! ### Merging -/

theorem mergePostings_increasing (op : Operator) {lists : List InvertedList}
    (ordered : ∀ l ∈ lists, Ordered l.postings) : Increasing (mergePostings op lists) := by
  cases op with
  | syn => exact Merge.synonym_increasing ordered
  | near distance => exact Merge.common_increasing _ ordered
  | window size => exact Merge.common_increasing _ ordered
  | score | or | and | wand | sum | wsum => exact List.Pairwise.nil

theorem mergePostings_sound (op : Operator) {occurs : DocId → Nat → Prop}
    {lists : List InvertedList} (ordered : ∀ l ∈ lists, Ordered l.postings)
    (sound : ∀ l ∈ lists, ∀ p ∈ l.postings, p.Sound occurs) :
    ∀ p ∈ mergePostings op lists, p.Sound occurs := by
  cases op with
  | syn => exact Merge.synonym_sound ordered sound
  | near distance =>
    exact Merge.common_sound (Merge.selects_nearOccurrences distance) ordered sound
  | window size =>
    exact Merge.common_sound (Merge.selects_windowOccurrences size) ordered sound
  | score | or | and | wand | sum | wsum => simp [mergePostings]

variable [Numeral α] {index : Index}

/-- Arguments are evaluated one after the other, each in the field of those before. -/
theorem positionalArgs_cons {op : Operator} {first : Option String} {q : Query α}
    {qs : List (Query α)} {lists : List InvertedList} :
    positionalArgs index op first (q :: qs) = .ok lists ↔
      ∃ list rest, q.positional index = .ok list ∧ first.getD list.field = list.field ∧
        positionalArgs index op (some (first.getD list.field)) qs = .ok rest ∧
        list :: rest = lists := by
  rw [positionalArgs]
  cases q.positional index with
  | error e => simp
  | ok list =>
    dsimp only
    split
    · rename_i same
      simp [Except.map_eq_ok_iff, same]
    · rename_i different
      simp [different]

/-! ### Order -/

mutual
/-- The postings of a positional query are ordered. -/
theorem positional_ordered (ordered : ∀ stem field, Ordered (index.postings stem field)) :
    (q : Query α) → {list : InvertedList} → q.positional index = .ok list →
      Ordered list.postings
  | term stem field, list, evaluated => by
    obtain rfl := Except.ok.inj evaluated
    exact ordered stem field
  | apply op args weights, list, evaluated => by
    rw [positional] at evaluated
    split at evaluated
    · obtain ⟨lists, arguments, rfl⟩ := Except.map_eq_ok_iff.1 evaluated
      exact (mergePostings_increasing op (positionalArgs_ordered ordered args arguments)).ordered
    · simp at evaluated

theorem positionalArgs_ordered (ordered : ∀ stem field, Ordered (index.postings stem field)) :
    (qs : List (Query α)) → {op : Operator} → {first : Option String} →
      {lists : List InvertedList} → positionalArgs index op first qs = .ok lists →
      ∀ l ∈ lists, Ordered l.postings
  | [], op, first, lists, evaluated => by
    obtain rfl := Except.ok.inj evaluated
    simp
  | q :: qs, op, first, lists, evaluated => by
    obtain ⟨list, rest, head, -, tail, rfl⟩ := positionalArgs_cons.1 evaluated
    exact List.forall_mem_cons.2
      ⟨positional_ordered ordered q head, positionalArgs_ordered ordered qs tail⟩
end

/-- Over an index with increasing postings the postings of a positional query increase. -/
theorem positional_increasing (increasing : ∀ stem field, Increasing (index.postings stem field))
    {q : Query α} {list : InvertedList} (evaluated : q.positional index = .ok list) :
    Increasing list.postings := by
  cases q with
  | term stem field =>
    obtain rfl := Except.ok.inj evaluated
    exact increasing stem field
  | apply op args weights =>
    rw [positional] at evaluated
    split at evaluated
    · obtain ⟨lists, arguments, rfl⟩ := Except.map_eq_ok_iff.1 evaluated
      exact mergePostings_increasing op
        (positionalArgs_ordered (fun stem field => (increasing stem field).ordered) args arguments)
    · simp at evaluated

/-! ### Occurrences -/

/-- The arguments of an operator lie in the field of its list. -/
theorem field_of_mem_positionalArgs {op : Operator} {first : Option String}
    {qs : List (Query α)} {lists : List InvertedList}
    (evaluated : positionalArgs index op first qs = .ok lists) :
    ∀ l ∈ lists, l.field = first.getD (merge op lists).field := by
  induction qs generalizing first lists with
  | nil =>
    obtain rfl := Except.ok.inj evaluated
    simp
  | cons q qs ih =>
    obtain ⟨list, rest, -, same, tail, rfl⟩ := positionalArgs_cons.1 evaluated
    exact List.forall_mem_cons.2 ⟨same.symm, ih tail⟩

mutual
/-- At every position of a positional query a stem of it is posted. -/
theorem positional_sound (posted : index.WellPosted) :
    (q : Query α) → {list : InvertedList} → q.positional index = .ok list →
      ∀ p ∈ list.postings, p.Sound (index.PostedAt q.leaves list.field)
  | term stem field, list, evaluated, p, member => by
    obtain rfl := Except.ok.inj evaluated
    exact ⟨posted.positions_ne_nil stem field p member, posted.ascending stem field p member,
      fun x hx => ⟨stem, by simp [leaves, Index.invertedList], p, member, rfl, hx⟩⟩
  | apply op args weights, list, evaluated, p, member => by
    rw [positional] at evaluated
    split at evaluated
    · obtain ⟨lists, arguments, rfl⟩ := Except.map_eq_ok_iff.1 evaluated
      have ordered := positionalArgs_ordered
        (fun stem field => (posted.increasing stem field).ordered) args arguments
      refine mergePostings_sound op ordered (fun l hl r hr => ?_) p member
      have shared : l.field = (merge op lists).field := field_of_mem_positionalArgs arguments l hl
      rw [← shared]
      exact positionalArgs_sound posted args arguments l hl r hr
    · simp at evaluated

theorem positionalArgs_sound (posted : index.WellPosted) :
    (qs : List (Query α)) → {op : Operator} → {first : Option String} →
      {lists : List InvertedList} → positionalArgs index op first qs = .ok lists →
      ∀ l ∈ lists, ∀ p ∈ l.postings, p.Sound (index.PostedAt (leavesAll qs) l.field)
  | [], op, first, lists, evaluated => by
    obtain rfl := Except.ok.inj evaluated
    simp
  | q :: qs, op, first, lists, evaluated => by
    obtain ⟨list, rest, head, -, tail, rfl⟩ := positionalArgs_cons.1 evaluated
    refine List.forall_mem_cons.2 ⟨fun p hp => ?_, fun l hl p hp => ?_⟩
    · exact (positional_sound posted q head p hp).mono
        (Index.PostedAt.mono (List.subset_append_left q.leaves (leavesAll qs)))
    · exact (positionalArgs_sound posted qs tail l hl p hp).mono
        (Index.PostedAt.mono (List.subset_append_right q.leaves (leavesAll qs)))
end

end Query

end RankedRetrieval
