import RankedRetrieval.Proofs.Query.Cleaning

/-!
# Leaves of queries

Neither scoring an argument nor cleaning a query changes its terms or their order.

## Main Definitions

* `Query.leaves` — the stems of a query with their fields, from left to right

## Main Results

* `Query.leaves_under` — scoring keeps the leaves
* `Query.leaves_cleanup` — cleaning keeps the leaves
-/

namespace RankedRetrieval.Query

variable {α : Type}

mutual
/-- The stems of a query with their fields, from left to right. -/
def leaves : Query α → List (String × String)
  | term stem field => [(stem, field)]
  | apply _ args _ => leavesAll args

/-- The stems of queries with their fields, from left to right. -/
def leavesAll : List (Query α) → List (String × String)
  | [] => []
  | q :: qs => q.leaves ++ leavesAll qs
end

@[simp]
theorem leavesAll_singleton (q : Query α) : leavesAll [q] = q.leaves :=
  List.append_nil q.leaves

@[simp]
theorem leavesAll_append (qs rs : List (Query α)) :
    leavesAll (qs ++ rs) = leavesAll qs ++ leavesAll rs := by
  induction qs with
  | nil => rfl
  | cons q qs ih => rw [List.cons_append, leavesAll, leavesAll, ih, List.append_assoc]

@[simp]
theorem leavesAll_map_term (stems : List String) (field : String) :
    leavesAll (stems.map fun stem => (term stem field : Query α)) =
      stems.map fun stem => (stem, field) := by
  induction stems with
  | nil => rfl
  | cons stem stems ih => rw [List.map_cons, leavesAll, ih, leaves, List.map_cons]; rfl

/-! ### Scoring -/

@[simp]
theorem leaves_under (op : Operator) (q : Query α) : (q.under op).leaves = q.leaves := by
  unfold under
  split
  · exact leavesAll_singleton q
  · rfl

@[simp]
theorem leavesAll_map_under (op : Operator) (qs : List (Query α)) :
    leavesAll (qs.map (under op)) = leavesAll qs := by
  induction qs with
  | nil => rfl
  | cons q qs ih => rw [List.map_cons, leavesAll, leavesAll, ih, leaves_under]

/-! ### Cleaning -/

theorem leaves_of_isChildless {q : Query α} (childless : q.isChildless = true) :
    q.leaves = [] := by
  rcases q with _ | ⟨op, _ | ⟨arg, args⟩, weights⟩
  · simp [isChildless] at childless
  · rfl
  · simp [isChildless] at childless

theorem leaves_collapsed? {q inner : Query α} (collapses : q.collapsed? = some inner) :
    inner.leaves = q.leaves := by
  obtain ⟨op, weights, rfl, -, -⟩ := collapsed?_eq_some collapses
  exact (leavesAll_singleton inner).symm

theorem leaves_collapseOuter (q : Query α) : q.collapseOuter.leaves = q.leaves := by
  cases collapses : q.collapsed? with
  | none => rw [collapseOuter_of_none collapses]
  | some inner =>
    have smaller := size_collapsed?_lt collapses
    rw [collapseOuter_of_some collapses, leaves_collapseOuter inner, leaves_collapsed? collapses]
termination_by q.size

mutual
theorem leaves_tidy : (q : Query α) → q.tidy.leaves = q.leaves
  | term _ _ => rfl
  | apply _ args _ => leavesAll_tidyArgs args

/-- What a pass drops has no leaves, and what it puts in the place of an argument has the same
ones. -/
theorem leavesAll_tidyArgs : (qs : List (Query α)) → leavesAll (tidyArgs qs) = leavesAll qs
  | [] => rfl
  | q :: qs => by
    have others := leavesAll_tidyArgs qs
    rw [tidyArgs, leavesAll]
    split
    · rename_i childless
      rw [others, leaves_of_isChildless childless, List.nil_append]
    · split
      · rename_i inner collapses
        rw [leavesAll, others, leaves_collapsed? collapses]
      · rw [leavesAll, others, leaves_tidy q]
end

theorem leaves_pass (q : Query α) : q.pass.leaves = q.leaves := by
  rw [pass, leaves_tidy, leaves_collapseOuter]

theorem leaves_passes (fuel : Nat) (q : Query α) : (passes fuel q).leaves = q.leaves := by
  induction fuel generalizing q with
  | zero => rfl
  | succ fuel ih =>
    rw [passes]
    split
    · exact leaves_pass q
    · rw [ih, leaves_pass]

/-- Cleaning keeps the leaves. -/
@[simp]
theorem leaves_cleanup (q : Query α) : q.cleanup.leaves = q.leaves :=
  leaves_passes q.size q

end RankedRetrieval.Query
