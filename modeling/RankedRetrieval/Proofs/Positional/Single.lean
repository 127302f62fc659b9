import RankedRetrieval.Proofs.Positional.Evaluation

/-!
# Positional operators over a single argument

A positional operator that has one argument combines nothing: what it makes of the list of its
argument is that list.

## Main Results

* `Merge.unite_singleton`, `Merge.intersect_singleton` — a run over a single cursor reports what
  is ahead of it
* `Query.positional_single` — a positional operator over one argument is that argument

## Design Notes

A run over one cursor visits posting after posting.  At each of them a union sorts positions that
are sorted, and an intersection asks its occurrences of a single list, so it is enough that the
occurrences of a single list are all of its positions.  A window has to be positive for that.
-/

namespace RankedRetrieval

namespace Cursor

variable {c : Cursor} {p : Posting} {ps : List Posting}

/-- Moving to a document that nothing ahead lies before changes nothing. -/
theorem advanceTo_eq_self {d : DocId} (ordered : Ordered c.rest)
    (reached : ∀ p ∈ c.rest, d ≤ p.doc) : c.advanceTo d = c := by
  have none_passed : c.rest.dropWhile (fun p => p.doc < d) = c.rest := by
    cases split : c.rest with
    | nil => rfl
    | cons p ps =>
      have first : d ≤ p.doc := reached p (by rw [split]; exact List.mem_cons_self)
      rw [List.dropWhile_cons_of_neg (by simpa using first)]
  have stays := (rest_advanceTo ordered d).trans none_passed
  unfold advanceTo advanceWhile at stays ⊢
  dsimp only at stays ⊢
  split
  · rename_i shorter
    rw [if_pos shorter] at stays
    exact absurd (congrArg List.length stays) (Nat.ne_of_lt shorter)
  · rfl

/-- Behind the current posting the others are ahead. -/
theorem rest_advancePast (increasing : Increasing c.rest) (split : c.rest = p :: ps) :
    (c.advancePast p.doc).rest = ps := by
  rw [advancePast_eq_advanceTo, rest_advanceTo increasing.ordered, split,
    List.dropWhile_cons_of_pos (by simp)]
  cases ps with
  | nil => rfl
  | cons q ps =>
    rw [split] at increasing
    have behind : p.doc < q.doc := (List.pairwise_cons.1 increasing).1 q List.mem_cons_self
    have kept : ¬ q.doc < p.doc + 1 := Nat.not_lt.2 behind
    rw [List.dropWhile_cons_of_neg (by simpa using kept)]

/-- Moving past the current posting leaves a cursor of the same kind over the others. -/
theorem Over.advancePast {occurs : DocId → Nat → Prop} (ahead : c.Over occurs)
    (increasing : Increasing c.rest) (split : c.rest = p :: ps) :
    (c.advancePast p.doc).Over occurs ∧ Increasing (c.advancePast p.doc).rest ∧
      (c.advancePast p.doc).rest.length + 1 = c.rest.length := by
  have passed := rest_advancePast increasing split
  refine ⟨?_, ?_, ?_⟩
  · rw [advancePast_eq_advanceTo]
    exact kept_over c _ ahead
  · rw [passed]
    rw [split] at increasing
    exact (List.pairwise_cons.1 increasing).2
  · rw [passed, split, List.length_cons]

theorem doc?_of_rest (split : c.rest = p :: ps) : c.doc? = some p.doc := by
  rw [doc?, posting?, split]
  rfl

/-- A cursor by itself is aligned where it is. -/
theorem align_singleton (ordered : Ordered c.rest) (split : c.rest = p :: ps) :
    align [c] = some (p.doc, [c]) := by
  have at_doc := doc?_of_rest split
  have stays : c.advanceTo p.doc = c :=
    advanceTo_eq_self ordered fun q hq => le_of_mem_rest ordered at_doc hq
  have swept : sweep p.doc [c] = some (p.doc, [c]) :=
    sweep_cons.2 ⟨p.doc, [], by rw [stays, at_doc], rfl, by rw [stays]⟩
  rw [align, at_doc]
  dsimp only
  rw [settle, swept]
  exact if_pos rfl

end Cursor

namespace Merge

variable {occurs : DocId → Nat → Prop} {c : Cursor}

/-! ### Runs over a single cursor -/

theorem leastDoc?_singleton (c : Cursor) : leastDoc? [c] = c.doc? := by
  rw [leastDoc?]
  cases at_doc : c.doc? with
  | none => simp [at_doc]
  | some doc => simp [at_doc]

/-- Uniting what is ahead of a single cursor changes nothing. -/
theorem unite_singleton {fuel : Nat} (ahead : c.Over occurs) (increasing : Increasing c.rest)
    (enough : c.rest.length ≤ fuel) : unite fuel [c] = c.rest := by
  induction fuel generalizing c with
  | zero => rw [unite, List.length_eq_zero_iff.1 (Nat.le_zero.1 enough)]
  | succ fuel ih =>
    rw [unite, leastDoc?_singleton]
    cases split : c.rest with
    | nil =>
      rw [Cursor.doc?, Cursor.posting?, split]
      rfl
    | cons p ps =>
      have at_doc := Cursor.doc?_of_rest split
      have ascending : p.positions.Pairwise (· ≤ ·) :=
        (ahead.sound p (by rw [split]; exact List.mem_cons_self)).ascending
      have sorted : positionsAt p.doc [c] = p.positions := by
        rw [positionsAt, List.filter_cons_of_pos (by simp [at_doc]), List.filter_nil,
          List.flatMap_singleton, split]
        exact List.mergeSort_of_pairwise (ascending.imp fun le => decide_eq_true le)
      have left : leave p.doc [c] = [c.advancePast p.doc] := by
        rw [leave, List.map_singleton, if_pos at_doc]
      obtain ⟨ahead_later, increasing_later, fewer⟩ := ahead.advancePast increasing split
      have later : unite fuel [c.advancePast p.doc] = ps := by
        rw [ih ahead_later increasing_later (by omega), Cursor.rest_advancePast increasing split]
      rw [at_doc]
      dsimp only
      rw [sorted, left, later]

/-- Where the occurrences of a single list are its positions, intersecting what is ahead of a
single cursor changes nothing. -/
theorem intersect_singleton {occurrences : List (List Nat) → List Nat} {fuel : Nat}
    (all_occur : ∀ positions, occurrences [positions] = positions) (ahead : c.Over occurs)
    (increasing : Increasing c.rest) (enough : c.rest.length ≤ fuel) :
    intersect occurrences fuel [c] = c.rest := by
  induction fuel generalizing c with
  | zero => rw [intersect, List.length_eq_zero_iff.1 (Nat.le_zero.1 enough)]
  | succ fuel ih =>
    rw [intersect]
    cases split : c.rest with
    | nil =>
      rw [Cursor.align, Cursor.doc?, Cursor.posting?, split]
      rfl
    | cons p ps =>
      have positions : c.positions = p.positions := by
        rw [ahead.positions_eq, split]
        rfl
      have some_position : p.positions ≠ [] :=
        (ahead.sound p (by rw [split]; exact List.mem_cons_self)).positions_ne_nil
      obtain ⟨ahead_later, increasing_later, fewer⟩ := ahead.advancePast increasing split
      have later : intersect occurrences fuel [c.advancePast p.doc] = ps := by
        rw [ih ahead_later increasing_later (by omega), Cursor.rest_advancePast increasing split]
      rw [Cursor.align_singleton ahead.ordered split]
      dsimp only
      rw [List.map_singleton, all_occur, positions, leaveFirst, later,
        if_neg (by simpa using some_position)]

/-! ### Single lists -/

theorem nearOccurrences_singleton (distance : Nat) (positions : List Nat) :
    nearOccurrences distance [positions] = positions :=
  chains_nil distance positions

/-- A position by itself is a span of one. -/
theorem windowOccurrences_singleton {size : Nat} (positive : 0 < size) (positions : List Nat) :
    windowOccurrences size [positions] = positions := by
  rw [windowOccurrences, List.foldr_cons, List.foldr_nil, Nat.add_zero]
  induction positions with
  | nil => rfl
  | cons p positions ih =>
    rw [List.length_cons, spans]
    have heads : heads? [p :: positions] = some [p] := rfl
    rw [heads]
    dsimp only
    rw [if_pos (by simpa using positive), List.map_singleton, List.tail_cons, ih]
    rfl

variable {l : InvertedList}

theorem synonym_singleton (increasing : Increasing l.postings)
    (sound : ∀ p ∈ l.postings, p.Sound occurs) : synonym [l] = l.postings :=
  unite_singleton (Cursor.over_start increasing.ordered sound) increasing (Nat.le_refl _)

theorem common_singleton {occurrences : List (List Nat) → List Nat}
    (all_occur : ∀ positions, occurrences [positions] = positions)
    (increasing : Increasing l.postings) (sound : ∀ p ∈ l.postings, p.Sound occurs) :
    common occurrences [l] = l.postings :=
  intersect_singleton all_occur (Cursor.over_start increasing.ordered sound) increasing
    (Nat.le_refl _)

end Merge

namespace Query

variable {α : Type} [Numeral α] {index : Index} {op : Operator}

/-- What a positional operator makes of a single list is that list. -/
theorem merge_singleton {occurs : DocId → Nat → Prop} {l : InvertedList}
    (positional : op.isPositional = true) (reach : ∀ n, op = .near n ∨ op = .window n → 0 < n)
    (increasing : Increasing l.postings) (sound : ∀ p ∈ l.postings, p.Sound occurs) :
    merge op [l] = l := by
  have postings : mergePostings op [l] = l.postings := by
    cases op with
    | syn => exact Merge.synonym_singleton increasing sound
    | near distance =>
      exact Merge.common_singleton (Merge.nearOccurrences_singleton distance) increasing sound
    | window size =>
      exact Merge.common_singleton
        (Merge.windowOccurrences_singleton (reach size (.inr rfl))) increasing sound
    | score | or | and | wand | sum | wsum => simp [Operator.isPositional] at positional
  rw [merge, postings]
  rfl

/-- A positional operator over a single argument evaluates to the list of that argument. -/
theorem positional_single (posted : index.WellPosted) (positional : op.isPositional = true)
    (reach : ∀ n, op = .near n ∨ op = .window n → 0 < n) (q : Query α) (weights : List α) :
    (apply op [q] weights).positional index = q.positional index := by
  rw [Query.positional, if_pos positional, positionalArgs]
  cases evaluated : q.positional index with
  | error e => rfl
  | ok l =>
    have merged := merge_singleton positional reach
      (positional_increasing posted.increasing evaluated) (positional_sound posted q evaluated)
    simp [positionalArgs, Except.map, merged]

end Query

end RankedRetrieval
