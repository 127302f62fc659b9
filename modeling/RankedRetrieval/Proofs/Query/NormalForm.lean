import Mathlib.Logic.Function.Iterate
import RankedRetrieval.Proofs.Query.Parsed

/-!
# The normal form of a query

Cleaning repeats passes until one of them finds nothing to do, and ends with a query that it would
not change again, whatever tree it is given.

## Main Definitions

* `Query.changes` — whether a pass over a query finds something to do
* `Query.Normal` — a query without operators that combine nothing

## Main Results

* `Query.changes_eq_false_iff` — a pass finds nothing to do exactly if it leaves the size as it is
* `Query.cleanup_eq_iterate` — cleaning stops behind the first pass that finds nothing to do
* `Query.normal_cleanup` — what is left by cleaning is normal
* `Query.Normal.cleanup_eq` — cleaning does not change a normal query
* `Query.cleanup_of_collapsed?` — an operator that collapses is cleaned as its only argument is

## Design Notes

**A pass that finds nothing to do may still change a tree.**  A tree can be given with more weights
than arguments, and every pass cuts such weights off without taking notice.  So the last pass makes
a clean query normal, and it is the query behind that pass which a further pass leaves alone.
-/

namespace RankedRetrieval.Query

variable {α : Type}

/-! ### Passes that find something to do -/

mutual
/-- Whether tidying a query finds something to do. -/
def tidyChanges : Query α → Bool
  | term _ _ => false
  | apply _ args _ => argsChange args

/-- Whether tidying arguments finds something to do: a childless operator, an operator that
collapses, or something inside of another argument. -/
def argsChange : List (Query α) → Bool
  | [] => false
  | q :: qs => q.isChildless || q.collapsed?.isSome || q.tidyChanges || argsChange qs
end

/-- Whether a pass over a query finds something to do. -/
def changes (q : Query α) : Bool :=
  q.collapsed?.isSome || q.collapseOuter.tidyChanges

mutual
/-- There is nothing to tidy exactly in a clean query. -/
theorem tidyChanges_eq_false_iff : (q : Query α) → (q.tidyChanges = false ↔ Clean q)
  | term _ _ => ⟨fun _ => .term, fun _ => rfl⟩
  | apply op args weights => by
    rw [tidyChanges, argsChange_eq_false_iff args]
    constructor
    · intro still
      refine .apply ?_ ?_ ?_
      · intro q hq
        exact (still q hq).2.2
      · intro q hq
        exact (still q hq).1
      · intro q hq
        exact (still q hq).2.1
    · intro clean q hq
      cases clean with
      | apply args_clean none_childless none_collapses =>
        exact ⟨none_childless q hq, none_collapses q hq, args_clean q hq⟩

theorem argsChange_eq_false_iff : (qs : List (Query α)) →
    (argsChange qs = false ↔
      ∀ q ∈ qs, q.isChildless = false ∧ q.collapsed? = none ∧ Clean q)
  | [] => by simp [argsChange]
  | q :: qs => by
    rw [argsChange, List.forall_mem_cons, ← argsChange_eq_false_iff qs,
      ← tidyChanges_eq_false_iff q]
    simp [and_assoc]
end

theorem changes_eq_false_iff_clean {q : Query α} :
    q.changes = false ↔ Clean q ∧ q.collapsed? = none := by
  rw [changes, Bool.or_eq_false_iff, tidyChanges_eq_false_iff, Option.isSome_eq_false_iff,
    Option.isNone_iff_eq_none]
  constructor
  · rintro ⟨stays, clean⟩
    rw [collapseOuter_of_none stays] at clean
    exact ⟨clean, stays⟩
  · rintro ⟨clean, stays⟩
    rw [collapseOuter_of_none stays]
    exact ⟨stays, clean⟩

/-! ### Normal queries -/

/-- A query without operators that combine nothing: none of its arguments is a childless operator,
no operator collapses, and there are no more weights than arguments. -/
inductive Normal : Query α → Prop where
  /-- A term is normal. -/
  | term {stem field : String} : Normal (term stem field)
  /-- An operator that stays is normal over normal arguments that stay. -/
  | apply {op : Operator} {args : List (Query α)} {weights : List α}
      (args_normal : ∀ q ∈ args, Normal q) (none_childless : ∀ q ∈ args, q.isChildless = false)
      (stays : (apply op args weights).collapsed? = none) (fits : weights.length ≤ args.length) :
      Normal (apply op args weights)

/-- Tidied arguments where nothing goes away and nothing collapses. -/
theorem tidyArgs_eq_map_tidy {args : List (Query α)}
    (none_childless : ∀ q ∈ args, q.isChildless = false)
    (none_collapses : ∀ q ∈ args, q.collapsed? = none) : tidyArgs args = args.map tidy := by
  rw [tidyArgs_eq_map none_childless]
  refine List.map_congr_left ?_
  intro q hq
  rw [tidied, none_collapses q hq]
  rfl

theorem isChildless_tidy_of_clean {q : Query α} (clean : Clean q) :
    q.tidy.isChildless = q.isChildless := by
  cases clean with
  | term => rfl
  | @apply op args weights _ none_childless none_collapses =>
    rw [tidy, tidyArgs_eq_map_tidy none_childless none_collapses]
    cases args with
    | nil => rfl
    | cons q args => rfl

/-- Whether an operator collapses depends on the kinds of its arguments only. -/
theorem collapsed?_apply_map {op : Operator} {args : List (Query α)} {weights others : List α}
    {f : Query α → Query α} (same_kind : ∀ q, (f q).isPositional = q.isPositional) :
    (apply op (args.map f) others).collapsed? = none ↔
      (apply op args weights).collapsed? = none := by
  cases args with
  | nil => simp [collapsed?]
  | cons q args =>
    cases args with
    | nil => simp [collapsed?, same_kind]
    | cons r args => simp [collapsed?]

theorem length_tidyWeights_le (qs : List (Query α)) (weights : List α) :
    (tidyWeights qs weights).length ≤ (tidyArgs qs).length := by
  induction qs generalizing weights with
  | nil => simp [tidyWeights]
  | cons q qs ih =>
    cases weights with
    | nil => simp [tidyWeights]
    | cons w weights =>
      rw [tidyWeights, tidyArgs]
      split
      · exact ih weights
      · split <;> exact Nat.succ_le_succ (ih weights)

/-- Tidying makes a clean query normal. -/
theorem normal_tidy {q : Query α} (clean : Clean q) (stays : q.collapsed? = none) :
    Normal q.tidy := by
  induction clean with
  | term => exact .term
  | @apply op args weights args_clean none_childless none_collapses ih =>
    have tidied := tidyArgs_eq_map_tidy none_childless none_collapses
    have fits := length_tidyWeights_le args weights
    rw [tidy]
    rw [tidied] at fits ⊢
    refine .apply ?_ ?_ ((collapsed?_apply_map isPositional_tidy).2 stays) fits
    · refine List.forall_mem_map.2 ?_
      intro q hq
      exact ih q hq (none_collapses q hq)
    · refine List.forall_mem_map.2 ?_
      intro q hq
      rw [isChildless_tidy_of_clean (args_clean q hq), none_childless q hq]

namespace Normal

variable {q : Query α}

theorem collapsed?_eq_none (normal : Normal q) : q.collapsed? = none := by
  cases normal with
  | term => rfl
  | apply _ _ stays _ => exact stays

theorem of_apply {op : Operator} {args : List (Query α)} {weights : List α}
    (normal : Normal (Query.apply op args weights)) :
    (∀ q ∈ args, Normal q) ∧ (∀ q ∈ args, q.isChildless = false) ∧
      weights.length ≤ args.length := by
  cases normal with
  | apply args_normal none_childless _ fits => exact ⟨args_normal, none_childless, fits⟩

/-- All parts of a normal query are normal. -/
theorem of_mem_nodes (normal : Normal q) : ∀ part ∈ q.nodes, Normal part := by
  refine forall_nodes ?_ q normal
  intro op args weights whole
  exact whole.of_apply.1

theorem tidy_eq (normal : Normal q) : q.tidy = q := by
  induction normal with
  | term => rfl
  | @apply op args weights args_normal none_childless _ fits ih =>
    have none_collapses : ∀ q ∈ args, q.collapsed? = none := by
      intro q hq
      exact (args_normal q hq).collapsed?_eq_none
    obtain ⟨same_args, same_weights⟩ := tidyArgs_of_clean ih none_childless none_collapses fits
    rw [tidy, same_args, same_weights]

/-- A pass does not change a normal query. -/
theorem pass_eq (normal : Normal q) : q.pass = q := by
  rw [pass, collapseOuter_of_none normal.collapsed?_eq_none, normal.tidy_eq]

/-- Cleaning does not change a normal query. -/
theorem cleanup_eq (normal : Normal q) : q.cleanup = q := by
  obtain ⟨fuel, size_eq⟩ := Nat.exists_eq_add_one.2 (size_pos q)
  rw [cleanup, size_eq, passes, normal.pass_eq, if_pos rfl]

/-- A normal query has leaves, unless it is a childless operator. -/
theorem leaves_ne_nil (normal : Normal q) (some_args : q.isChildless = false) :
    q.leaves ≠ [] := by
  induction normal with
  | term => exact List.cons_ne_nil _ _
  | @apply op args weights _ none_childless _ _ ih =>
    cases args with
    | nil => simp [isChildless] at some_args
    | cons q args =>
      intro no_leaves
      obtain ⟨first, -⟩ := List.append_eq_nil_iff.1 no_leaves
      exact ih q List.mem_cons_self (none_childless q List.mem_cons_self) first

/-- A normal query that is not positional has arguments exactly if it has leaves. -/
theorem args_eq_nil_iff (normal : Normal q) (structural : q.isPositional = false) :
    q.args = [] ↔ q.leaves = [] := by
  cases q with
  | term => simp [isPositional] at structural
  | apply op args weights =>
    constructor
    · intro no_args
      rw [leaves, show args = [] from no_args]
      rfl
    · intro no_leaves
      show args = []
      cases args with
      | nil => rfl
      | cons q args => exact absurd no_leaves (normal.leaves_ne_nil rfl)

end Normal

/-! ### The loop of passes -/

theorem sizes_map {f : Query α → Query α} {qs : List (Query α)}
    (same_size : ∀ q ∈ qs, (f q).size = q.size) : sizes (qs.map f) = sizes qs := by
  induction qs with
  | nil => rfl
  | cons q qs ih =>
    obtain ⟨first, others⟩ := List.forall_mem_cons.1 same_size
    rw [List.map_cons, sizes, sizes, first, ih others]

theorem size_tidy_of_clean {q : Query α} (clean : Clean q) : q.tidy.size = q.size := by
  induction clean with
  | term => rfl
  | apply _ none_childless none_collapses ih =>
    rw [tidy, size, size, tidyArgs_eq_map_tidy none_childless none_collapses, sizes_map ih]

/-- A pass finds nothing to do exactly if it leaves the size as it is. -/
theorem changes_eq_false_iff {q : Query α} : q.changes = false ↔ q.pass.size = q.size := by
  rw [changes_eq_false_iff_clean]
  constructor
  · rintro ⟨clean, stays⟩
    rw [pass, collapseOuter_of_none stays, size_tidy_of_clean clean]
  · exact (size_pass q).2

/-- A pass that finds something to do makes a query smaller. -/
theorem size_pass_lt {q : Query α} (finds : q.changes = true) : q.pass.size < q.size := by
  refine Nat.lt_of_le_of_ne (size_pass q).1 ?_
  intro same
  rw [changes_eq_false_iff.2 same] at finds
  exact Bool.false_ne_true finds

theorem passes_eq_iterate {fuel : Nat} {q : Query α} (enough : q.size ≤ fuel) :
    ∃ n < q.size, (∀ m < n, (pass^[m] q).changes = true) ∧ (pass^[n] q).changes = false ∧
      passes fuel q = pass^[n + 1] q := by
  induction fuel generalizing q with
  | zero => exact absurd (size_pos q) (Nat.not_lt_of_le enough)
  | succ fuel ih =>
    rw [passes]
    split
    · rename_i same
      exact ⟨0, size_pos q, by simp, changes_eq_false_iff.2 same, rfl⟩
    · rename_i smaller
      have finds : q.changes = true := by
        rwa [← Bool.not_eq_false, changes_eq_false_iff]
      have less := size_pass_lt finds
      obtain ⟨n, few, before, still, same⟩ := ih (q := q.pass) (by omega)
      refine ⟨n + 1, by omega, ?_, still, same⟩
      intro m hm
      cases m with
      | zero => exact finds
      | succ m => exact before m (by omega)

/-- Cleaning repeats passes until one of them finds nothing to do, which one of the first passes
does: there are no more of them than the query has terms and operators. -/
theorem cleanup_eq_iterate (q : Query α) :
    ∃ n < q.size, (∀ m < n, (pass^[m] q).changes = true) ∧ (pass^[n] q).changes = false ∧
      q.cleanup = pass^[n + 1] q :=
  passes_eq_iterate (Nat.le_refl _)

/-- What is left by cleaning is normal. -/
theorem normal_cleanup (q : Query α) : Normal q.cleanup := by
  obtain ⟨n, -, -, still, same⟩ := cleanup_eq_iterate q
  obtain ⟨clean, stays⟩ := changes_eq_false_iff_clean.1 still
  rw [same, Function.iterate_succ_apply', pass, collapseOuter_of_none stays]
  exact normal_tidy clean stays

/-- Cleaning once more changes nothing. -/
theorem cleanup_cleanup (q : Query α) : q.cleanup.cleanup = q.cleanup :=
  (normal_cleanup q).cleanup_eq

/-- Passes that lead to a normal query lead to what is left by cleaning. -/
theorem Normal.iterate_eq_cleanup {n : Nat} {q : Query α} (normal : Normal (pass^[n] q)) :
    pass^[n] q = q.cleanup := by
  obtain ⟨m, -, -, -, same⟩ := cleanup_eq_iterate q
  have cleaned : Normal (pass^[m + 1] q) := by
    rw [← same]
    exact normal_cleanup q
  rw [same]
  rcases Nat.le_total n (m + 1) with fewer | fewer
  · obtain ⟨more, total⟩ := Nat.exists_eq_add_of_le' fewer
    rw [total, Function.iterate_add_apply, Function.iterate_fixed normal.pass_eq]
  · obtain ⟨more, total⟩ := Nat.exists_eq_add_of_le' fewer
    rw [total, Function.iterate_add_apply, Function.iterate_fixed cleaned.pass_eq]

/-- An operator that collapses is cleaned as its only argument is. -/
theorem cleanup_of_collapsed? {q inner : Query α} (collapses : q.collapsed? = some inner) :
    q.cleanup = inner.cleanup := by
  obtain ⟨n, -, -, -, same⟩ := cleanup_eq_iterate q
  have first : q.pass = inner.pass := by
    rw [pass, pass, collapseOuter_of_some collapses]
  have shared : pass^[n + 1] q = pass^[n + 1] inner := by
    rw [Function.iterate_succ_apply, Function.iterate_succ_apply, first]
  have normal : Normal (pass^[n + 1] inner) := by
    rw [← shared, ← same]
    exact normal_cleanup q
  rw [same, shared, normal.iterate_eq_cleanup]

end RankedRetrieval.Query
