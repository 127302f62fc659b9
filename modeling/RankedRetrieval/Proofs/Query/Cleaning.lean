import RankedRetrieval.Decimal.Reading
import RankedRetrieval.Query.Cleanup

/-!
# Clean queries

Cleaning a query ends with a query that a further pass does not change.

## Main Definitions

* `Query.Shaped` — a query as the parser builds it
* `Query.Clean` — a query whose arguments need no cleaning

## Main Results

* `Query.clean_cleanup` — what is left by cleaning is clean
* `Query.Shaped.cleanup` — cleaning keeps the shape
* `Query.pass_of_clean` — a pass does not change a clean query

## Design Notes

A pass never makes a query larger, and one that does not make it smaller has found nothing to
do.  The passes stop at the first such pass, which by the size of the query comes in time.
-/

namespace RankedRetrieval.Query

variable {α : Type}

/-! ### Collapsing -/

theorem size_pos (q : Query α) : 0 < q.size := by
  cases q with
  | term => exact Nat.one_pos
  | apply op args weights => exact Nat.lt_of_lt_of_le Nat.one_pos (Nat.le_add_right 1 _)

theorem collapsed?_eq_some {q inner : Query α} (collapses : q.collapsed? = some inner) :
    ∃ op weights, q = apply op [inner] weights ∧ op ≠ .score ∧
      op.isPositional = inner.isPositional := by
  unfold collapsed? at collapses
  split at collapses
  · rename_i op q weights
    split at collapses
    · rename_i same
      obtain rfl := Option.some.inj collapses
      obtain ⟨not_score, kind⟩ := Bool.and_eq_true_iff.1 same
      exact ⟨op, weights, rfl, by simpa using not_score, by simpa using kind⟩
    · simp at collapses
  · simp at collapses

theorem isPositional_collapsed? {q inner : Query α} (collapses : q.collapsed? = some inner) :
    inner.isPositional = q.isPositional := by
  obtain ⟨op, weights, rfl, -, kind⟩ := collapsed?_eq_some collapses
  exact kind.symm

theorem size_collapsed?_lt {q inner : Query α} (collapses : q.collapsed? = some inner) :
    inner.size < q.size := by
  obtain ⟨op, weights, rfl, -, -⟩ := collapsed?_eq_some collapses
  simp only [size, sizes]
  omega

theorem collapseOuter_of_none {q : Query α} (stays : q.collapsed? = none) :
    q.collapseOuter = q := by
  unfold collapsed? at stays
  split at stays
  · rename_i op q weights
    unfold collapseOuter
    split at stays
    · simp at stays
    · rename_i other
      exact if_neg other
  · rename_i other
    unfold collapseOuter
    split
    · exact absurd rfl (other _ _ _)
    · rfl

theorem collapseOuter_of_some {q inner : Query α} (collapses : q.collapsed? = some inner) :
    q.collapseOuter = inner.collapseOuter := by
  obtain ⟨op, weights, rfl, not_score, kind⟩ := collapsed?_eq_some collapses
  rw [collapseOuter]
  exact if_pos (by simp [not_score, kind])

/-- What is left of the outermost operators collapses no further, and is no larger. -/
theorem collapseOuter_spec (q : Query α) :
    q.collapseOuter.size ≤ q.size ∧ q.collapseOuter.isPositional = q.isPositional ∧
      (q.collapseOuter.size = q.size → q.collapsed? = none) := by
  cases collapses : q.collapsed? with
  | none => simp [collapseOuter_of_none collapses]
  | some inner =>
    have smaller := size_collapsed?_lt collapses
    obtain ⟨le, kind, -⟩ := collapseOuter_spec inner
    rw [collapseOuter_of_some collapses]
    exact ⟨Nat.le_trans le (Nat.le_of_lt smaller), kind.trans (isPositional_collapsed? collapses),
      fun same => absurd same (Nat.ne_of_lt (Nat.lt_of_le_of_lt le smaller))⟩
termination_by q.size

/-! ### Clean queries -/

/-- A query whose arguments need no cleaning, down to its terms. -/
inductive Clean : Query α → Prop where
  /-- A term is clean. -/
  | term {stem field : String} : Clean (term stem field)
  /-- An operator is clean when none of its arguments goes away or collapses. -/
  | apply {op : Operator} {args : List (Query α)} {weights : List α}
      (args_clean : ∀ q ∈ args, Clean q) (none_childless : ∀ q ∈ args, q.isChildless = false)
      (none_collapses : ∀ q ∈ args, q.collapsed? = none) : Clean (apply op args weights)

mutual
/-- Tidying a query makes it smaller unless it is clean. -/
theorem size_tidy : (q : Query α) →
    q.tidy.size ≤ q.size ∧ (q.tidy.size = q.size → Clean q)
  | term stem field => ⟨Nat.le_refl _, fun _ => .term⟩
  | apply op args weights => by
    obtain ⟨le, clean⟩ := sizes_tidyArgs args
    rw [tidy, size, size]
    refine ⟨Nat.add_le_add_left le 1, fun same => ?_⟩
    have args_clean := clean (Nat.add_left_cancel same)
    exact .apply (fun q hq => (args_clean q hq).1) (fun q hq => (args_clean q hq).2.1)
      fun q hq => (args_clean q hq).2.2

theorem sizes_tidyArgs : (qs : List (Query α)) →
    sizes (tidyArgs qs) ≤ sizes qs ∧ (sizes (tidyArgs qs) = sizes qs →
      ∀ q ∈ qs, Clean q ∧ q.isChildless = false ∧ q.collapsed? = none)
  | [] => ⟨Nat.le_refl _, fun _ => by simp⟩
  | q :: qs => by
    obtain ⟨tail_le, tail_clean⟩ := sizes_tidyArgs qs
    obtain ⟨head_le, head_clean⟩ := size_tidy q
    have positive := size_pos q
    rw [tidyArgs, sizes]
    cases childless : q.isChildless with
    | true =>
      rw [if_pos rfl]
      exact ⟨by omega, fun same => by omega⟩
    | false =>
      rw [if_neg (by decide)]
      cases collapses : q.collapsed? with
      | some inner =>
        have smaller := size_collapsed?_lt collapses
        simp only [sizes]
        exact ⟨by omega, fun same => by omega⟩
      | none =>
        simp only [sizes]
        refine ⟨by omega, fun same => List.forall_mem_cons.2 ⟨?_, tail_clean (by omega)⟩⟩
        exact ⟨head_clean (by omega), childless, collapses⟩
end

/-! ### The shape of parsed queries -/

/-- An operator and its arguments as the parser puts them together: distances are positive words
of 32 bits, a weighted operator has one weight for each argument, and exactly the arguments of
`score`, at most one, are positional under an operator that is not. -/
structure ShapedNode (op : Operator) (args : List (Query α)) (weights : List α) : Prop where
  /-- Distances are positive words of 32 bits. -/
  distance : ∀ n, op = .near n ∨ op = .window n → 0 < n ∧ n ≤ Decimal.greatestWord
  /-- There is a weight for each argument of a weighted operator, and none otherwise. -/
  length_weights : weights.length = if op.isWeighted then args.length else 0
  /-- At most one argument is scored. -/
  single : op = .score → args.length ≤ 1
  /-- Only `score` has positional arguments among the operators that are not positional. -/
  kinds : op.isPositional = false → ∀ q ∈ args, q.isPositional = true ↔ op = .score

/-- A query as the parser builds it. -/
inductive Shaped : Query α → Prop where
  /-- Terms lie in one of the fields. -/
  | term {stem field : String} (allowed : field ∈ fields) : Shaped (term stem field)
  /-- Operators and arguments go together. -/
  | apply {op : Operator} {args : List (Query α)} {weights : List α}
      (node : ShapedNode op args weights) (args_shaped : ∀ q ∈ args, Shaped q) :
      Shaped (apply op args weights)

theorem Shaped.of_apply {op : Operator} {args : List (Query α)} {weights : List α}
    (shaped : Shaped (Query.apply op args weights)) :
    ShapedNode op args weights ∧ ∀ q ∈ args, Shaped q := by
  cases shaped with
  | apply node args_shaped => exact ⟨node, args_shaped⟩

theorem Shaped.of_collapsed? {q inner : Query α} (shaped : Shaped q)
    (collapses : q.collapsed? = some inner) : Shaped inner := by
  obtain ⟨op, weights, rfl, -, -⟩ := collapsed?_eq_some collapses
  exact shaped.of_apply.2 inner List.mem_cons_self

theorem Shaped.collapseOuter (q : Query α) (shaped : Shaped q) : Shaped q.collapseOuter := by
  cases collapses : q.collapsed? with
  | none => rwa [collapseOuter_of_none collapses]
  | some inner =>
    have smaller := size_collapsed?_lt collapses
    rw [collapseOuter_of_some collapses]
    exact Shaped.collapseOuter inner (shaped.of_collapsed? collapses)
termination_by q.size

theorem isPositional_tidy (q : Query α) : q.tidy.isPositional = q.isPositional := by
  cases q with
  | term => rfl
  | apply op args weights => rw [tidy, isPositional, isPositional]

/-- Tidied arguments come from arguments of the same kind. -/
theorem mem_tidyArgs {b : Query α} {qs : List (Query α)} (member : b ∈ tidyArgs qs) :
    ∃ q ∈ qs, b.isPositional = q.isPositional ∧ (q.collapsed? = some b ∨ b = q.tidy) := by
  induction qs with
  | nil => simp [tidyArgs] at member
  | cons q qs ih =>
    have later (member : b ∈ tidyArgs qs) : ∃ r ∈ q :: qs,
        b.isPositional = r.isPositional ∧ (r.collapsed? = some b ∨ b = r.tidy) := by
      obtain ⟨r, hr, origin⟩ := ih member
      exact ⟨r, List.mem_cons_of_mem q hr, origin⟩
    rw [tidyArgs] at member
    split at member
    · exact later member
    · cases collapses : q.collapsed? with
      | some inner =>
        rw [collapses] at member
        rcases List.mem_cons.1 member with rfl | rest
        · exact ⟨q, List.mem_cons_self, isPositional_collapsed? collapses, .inl collapses⟩
        · exact later rest
      | none =>
        rw [collapses] at member
        rcases List.mem_cons.1 member with rfl | rest
        · exact ⟨q, List.mem_cons_self, isPositional_tidy q, .inr rfl⟩
        · exact later rest

theorem length_tidyArgs_le (qs : List (Query α)) : (tidyArgs qs).length ≤ qs.length := by
  induction qs with
  | nil => exact Nat.le_refl _
  | cons q qs ih =>
    rw [tidyArgs]
    split
    · exact Nat.le_succ_of_le ih
    · split <;> exact Nat.succ_le_succ ih

theorem tidyWeights_nil (qs : List (Query α)) : tidyWeights qs ([] : List α) = [] := by
  cases qs <;> rfl

/-- Weights go away together with their arguments. -/
theorem length_tidyWeights {qs : List (Query α)} {weights : List α}
    (same : weights.length = qs.length) :
    (tidyWeights qs weights).length = (tidyArgs qs).length := by
  induction qs generalizing weights with
  | nil => simp [tidyWeights, tidyArgs]
  | cons q qs ih =>
    cases weights with
    | nil => simp at same
    | cons w weights =>
      have tail := ih (Nat.succ.inj same)
      rw [tidyWeights, tidyArgs]
      split
      · exact tail
      · split <;> exact congrArg Nat.succ tail

theorem ShapedNode.tidy {op : Operator} {args : List (Query α)} {weights : List α}
    (node : ShapedNode op args weights) :
    ShapedNode op (tidyArgs args) (tidyWeights args weights) where
  distance := node.distance
  length_weights := by
    have lengths := node.length_weights
    split at lengths
    · rename_i weighted
      rw [if_pos weighted, length_tidyWeights lengths]
    · rename_i unweighted
      rw [if_neg unweighted, List.length_eq_zero_iff.1 lengths, tidyWeights_nil, List.length_nil]
  single is_score := Nat.le_trans (length_tidyArgs_le args) (node.single is_score)
  kinds structural q member := by
    obtain ⟨origin, horigin, kind, -⟩ := mem_tidyArgs member
    rw [kind]
    exact node.kinds structural origin horigin

theorem Shaped.tidy {q : Query α} (shaped : Shaped q) : Shaped q.tidy := by
  induction shaped with
  | term allowed => exact .term allowed
  | apply node args_shaped ih =>
    refine .apply node.tidy fun b member => ?_
    obtain ⟨q, hq, -, collapses | rfl⟩ := mem_tidyArgs member
    · exact (args_shaped q hq).of_collapsed? collapses
    · exact ih q hq

/-! ### Passes -/

theorem Shaped.pass {q : Query α} (shaped : Shaped q) : Shaped q.pass :=
  (Shaped.collapseOuter q shaped).tidy

theorem isPositional_pass (q : Query α) : q.pass.isPositional = q.isPositional := by
  rw [Query.pass, isPositional_tidy, (collapseOuter_spec q).2.1]

/-- A pass makes a query smaller unless there is nothing to do. -/
theorem size_pass (q : Query α) :
    q.pass.size ≤ q.size ∧ (q.pass.size = q.size → Clean q ∧ q.collapsed? = none) := by
  obtain ⟨outer_le, -, stays⟩ := collapseOuter_spec q
  obtain ⟨tidy_le, clean⟩ := size_tidy q.collapseOuter
  refine ⟨Nat.le_trans tidy_le outer_le, fun same => ?_⟩
  have total : q.collapseOuter.tidy.size = q.size := same
  have collapses := stays (Nat.le_antisymm outer_le (total ▸ tidy_le))
  rw [collapseOuter_of_none collapses] at clean total
  exact ⟨clean total, collapses⟩

theorem tidyArgs_of_clean {args : List (Query α)} {weights : List α}
    (args_tidy : ∀ q ∈ args, q.tidy = q) (none_childless : ∀ q ∈ args, q.isChildless = false)
    (none_collapses : ∀ q ∈ args, q.collapsed? = none) (fits : weights.length ≤ args.length) :
    tidyArgs args = args ∧ tidyWeights args weights = weights := by
  induction args generalizing weights with
  | nil =>
    obtain rfl : weights = [] := by simpa using fits
    exact ⟨rfl, rfl⟩
  | cons q args ih =>
    obtain ⟨head, tail⟩ := List.forall_mem_cons.1 args_tidy
    obtain ⟨some_args, tail_args⟩ := List.forall_mem_cons.1 none_childless
    obtain ⟨stays, tail_stays⟩ := List.forall_mem_cons.1 none_collapses
    have others (weights : List α) (fits : weights.length ≤ args.length) :=
      ih tail tail_args tail_stays fits
    rw [tidyArgs, some_args, stays, head]
    refine ⟨congrArg (q :: ·) (others [] (Nat.zero_le _)).1, ?_⟩
    cases weights with
    | nil => rfl
    | cons w weights =>
      rw [tidyWeights, some_args]
      exact congrArg (w :: ·) (others weights (Nat.le_of_succ_le_succ fits)).2

/-- Tidying does not change a clean query. -/
theorem tidy_of_clean {q : Query α} (clean : Clean q) (shaped : Shaped q) : q.tidy = q := by
  induction clean with
  | term => rfl
  | @apply op args weights _ none_childless none_collapses ih =>
    obtain ⟨node, args_shaped⟩ := shaped.of_apply
    have fits : weights.length ≤ args.length := by
      rw [node.length_weights]
      split
      · exact Nat.le_refl _
      · exact Nat.zero_le _
    obtain ⟨same_args, same_weights⟩ :=
      tidyArgs_of_clean (fun q hq => ih q hq (args_shaped q hq)) none_childless none_collapses fits
    rw [Query.tidy, same_args, same_weights]

/-- A pass does not change a clean query whose outermost operator stays. -/
theorem pass_of_clean {q : Query α} (clean : Clean q) (stays : q.collapsed? = none)
    (shaped : Shaped q) : q.pass = q := by
  rw [pass, collapseOuter_of_none stays, tidy_of_clean clean shaped]

/-- What is left by cleaning is clean, has the shape of a parsed query and is of the same
kind. -/
theorem passes_spec {fuel : Nat} {q : Query α} (shaped : Shaped q) (enough : q.size ≤ fuel) :
    Clean (passes fuel q) ∧ (passes fuel q).collapsed? = none ∧ Shaped (passes fuel q) ∧
      (passes fuel q).isPositional = q.isPositional := by
  induction fuel generalizing q with
  | zero => exact absurd (size_pos q) (Nat.not_lt_of_le enough)
  | succ fuel ih =>
    obtain ⟨le, done⟩ := size_pass q
    rw [passes]
    split
    · -- the last pass has found nothing to do
      rename_i same
      obtain ⟨clean, stays⟩ := done same
      rw [pass_of_clean clean stays shaped]
      exact ⟨clean, stays, shaped, rfl⟩
    · rename_i smaller
      have enough_left : q.pass.size ≤ fuel :=
        Nat.le_of_lt_succ (Nat.lt_of_lt_of_le (Nat.lt_of_le_of_ne le smaller) enough)
      obtain ⟨clean, stays, still_shaped, kind⟩ := ih shaped.pass enough_left
      exact ⟨clean, stays, still_shaped, kind.trans (isPositional_pass q)⟩

/-- What is left by cleaning is clean. -/
theorem clean_cleanup {q : Query α} (shaped : Shaped q) :
    Clean q.cleanup ∧ q.cleanup.collapsed? = none :=
  ⟨(passes_spec shaped (Nat.le_refl _)).1, (passes_spec shaped (Nat.le_refl _)).2.1⟩

theorem Shaped.cleanup {q : Query α} (shaped : Shaped q) : Shaped q.cleanup :=
  (passes_spec shaped (Nat.le_refl _)).2.2.1

theorem isPositional_cleanup {q : Query α} (shaped : Shaped q) :
    q.cleanup.isPositional = q.isPositional :=
  (passes_spec shaped (Nat.le_refl _)).2.2.2

/-- Cleaning takes an operator around a single clean query of its kind away. -/
theorem cleanup_wrapped {op : Operator} {weights : List α} {q : Query α} (clean : Clean q)
    (stays : q.collapsed? = none) (shaped : Shaped q) (not_score : op ≠ .score)
    (kind : op.isPositional = q.isPositional) : (apply op [q] weights).cleanup = q := by
  have collapses : (apply op [q] weights).collapsed? = some q :=
    if_pos (by simp [not_score, kind])
  -- one pass takes the operator away, and the next one finds nothing to do
  have first : (apply op [q] weights).pass = q := by
    rw [pass, collapseOuter_of_some collapses, collapseOuter_of_none stays,
      tidy_of_clean clean shaped]
  have second := pass_of_clean clean stays shaped
  have size_eq : (apply op [q] weights).size = q.size + 1 := by
    simp only [size, sizes]
    omega
  obtain ⟨fuel, hfuel⟩ := Nat.exists_eq_succ_of_ne_zero (Nat.ne_of_gt (size_pos q))
  rw [Query.cleanup, size_eq, passes, first, if_neg (by omega), hfuel, passes, second,
    if_pos rfl]

end RankedRetrieval.Query
