import RankedRetrieval.Proofs.Query.NormalForm

/-!
# What cleaning leaves of a query

Cleaning takes operators that combine nothing out of a query, and whatever is left stands where it
stood before, under the same weight.

## Main Definitions

* `Query.weighed` — arguments with the weights that stand at their places
* `Query.Reduces`, `Query.ReducesAll` — what may be left of a query, and of weighed arguments
* `Query.Appended` — a query that is put together argument by argument

## Main Results

* `Query.reduces_cleanup` — what is left by cleaning may be left
* `Query.Reduces.unique` — at most one normal query may be left of a query with leaves
* `Query.Reduces.cleanup_eq` — so cleaning what may be left leads to the same query
* `Query.cleanup_normalizes` — the normal form, the leaves and the weights of a clean query

## Design Notes

**The relation knows no passes.**  It says of each operator on its own that it may stay over what is
left of its arguments, or give way to the only one of them that is left.  An argument may go away
when it has no leaves.  Passes are one way to get there, and the order in which operators are taken
out does not matter as long as there is a leaf.

**Without leaves the outermost operator is open.**  It may stay without arguments, or give way to an
operator without arguments.
-/

namespace RankedRetrieval.Query

variable {α : Type}

/-! ### Weighed arguments -/

/-- Arguments with the weights that stand at their places. -/
def weighed : List (Query α) → List α → List (Query α × Option α)
  | [], _ => []
  | q :: qs, weights => (q, weights.head?) :: weighed qs weights.tail

@[simp]
theorem map_fst_weighed (qs : List (Query α)) (weights : List α) :
    (weighed qs weights).map Prod.fst = qs := by
  induction qs generalizing weights with
  | nil => rfl
  | cons q qs ih => rw [weighed, List.map_cons, ih]

theorem fst_mem_of_mem_weighed {qs : List (Query α)} {weights : List α}
    {entry : Query α × Option α} (member : entry ∈ weighed qs weights) : entry.1 ∈ qs := by
  rw [← map_fst_weighed qs weights]
  exact List.mem_map_of_mem member

/-- Weights are determined by what they weigh, unless there are more of them. -/
theorem weighed_inj {qs rs : List (Query α)} {weights others : List α}
    (same : weighed qs weights = weighed rs others) (fits : weights.length ≤ qs.length)
    (others_fit : others.length ≤ rs.length) : qs = rs ∧ weights = others := by
  have same_args : qs = rs := by
    rw [← map_fst_weighed qs weights, same, map_fst_weighed]
  subst same_args
  refine ⟨rfl, ?_⟩
  induction qs generalizing weights others with
  | nil =>
    rw [List.length_eq_zero_iff.1 (Nat.le_zero.1 fits),
      List.length_eq_zero_iff.1 (Nat.le_zero.1 others_fit)]
  | cons q qs ih =>
    obtain ⟨first, later⟩ := List.cons.inj same
    have same_head : weights.head? = others.head? := (Prod.mk.inj first).2
    have same_tail : weights.tail = others.tail :=
      ih (by simpa using fits) later (by simpa using others_fit)
    cases weights with
    | nil =>
      cases others with
      | nil => rfl
      | cons v others => simp at same_head
    | cons w weights =>
      cases others with
      | nil => simp at same_head
      | cons v others =>
        obtain rfl : w = v := by simpa using same_head
        exact congrArg (w :: ·) same_tail

/-- Every argument has a weight exactly if there are at least as many weights. -/
theorem forall_isSome_weighed_iff {qs : List (Query α)} {weights : List α} :
    (∀ entry ∈ weighed qs weights, entry.2.isSome) ↔ qs.length ≤ weights.length := by
  induction qs generalizing weights with
  | nil => simp [weighed]
  | cons q qs ih =>
    rw [weighed, List.forall_mem_cons, ih]
    cases weights with
    | nil => simp
    | cons w weights => simp

/-! ### Reductions -/

mutual
/-- What may be left of a query when operators that combine nothing are taken out of it. -/
inductive Reduces : Query α → Query α → Prop where
  /-- A term stays. -/
  | term {stem field : String} : Reduces (term stem field) (term stem field)
  /-- An operator stays over what is left of its arguments. -/
  | apply {op : Operator} {args rest : List (Query α)} {weights others : List α}
      (left : ReducesAll (weighed args weights) (weighed rest others)) :
      Reduces (apply op args weights) (apply op rest others)
  /-- An operator other than `score` gives way to the only argument that is left, if that is
  positional just as the operator is. -/
  | collapse {op : Operator} {args : List (Query α)} {weights : List α} {r : Query α}
      {weight : Option α} (left : ReducesAll (weighed args weights) [(r, weight)])
      (not_score : op ≠ .score) (kind : op.isPositional = r.isPositional) :
      Reduces (apply op args weights) r

/-- What may be left of weighed arguments. -/
inductive ReducesAll : List (Query α × Option α) → List (Query α × Option α) → Prop where
  /-- Nothing is left of nothing. -/
  | nil : ReducesAll [] []
  /-- An argument without leaves may go away, and its weight with it. -/
  | drop {q : Query α} {weight : Option α} {qs rs : List (Query α × Option α)}
      (no_leaves : q.leaves = []) (others : ReducesAll qs rs) : ReducesAll ((q, weight) :: qs) rs
  /-- What is left of an argument has the weight of the argument. -/
  | keep {q r : Query α} {weight : Option α} {qs rs : List (Query α × Option α)}
      (first : Reduces q r) (others : ReducesAll qs rs) :
      ReducesAll ((q, weight) :: qs) ((r, weight) :: rs)
end

namespace Reduces

mutual
theorem refl : (q : Query α) → Reduces q q
  | .term _ _ => .term
  | .apply _ args weights => .apply (refl_weighed args weights)

theorem refl_weighed : (qs : List (Query α)) → (weights : List α) →
    ReducesAll (weighed qs weights) (weighed qs weights)
  | [], _ => .nil
  | q :: qs, weights => .keep (refl q) (refl_weighed qs weights.tail)
end

theorem isPositional_eq {q r : Query α} (reduces : Reduces q r) :
    r.isPositional = q.isPositional := by
  cases reduces with
  | term => rfl
  | apply => rfl
  | collapse _ _ kind => exact kind.symm

mutual
/-- What is left has the same leaves. -/
theorem leaves_eq : {q r : Query α} → Reduces q r → r.leaves = q.leaves
  | _, _, .term => rfl
  | _, _, .apply left => by
    simpa [leaves] using leavesAll_eq left
  | _, _, .collapse left _ _ => by
    simpa [leaves] using leavesAll_eq left

theorem leavesAll_eq : {qs rs : List (Query α × Option α)} → ReducesAll qs rs →
    leavesAll (rs.map Prod.fst) = leavesAll (qs.map Prod.fst)
  | _, _, .nil => rfl
  | _, _, .drop no_leaves others => by
    rw [List.map_cons, leavesAll, no_leaves, List.nil_append, leavesAll_eq others]
  | _, _, .keep first others => by
    rw [List.map_cons, List.map_cons, leavesAll, leavesAll, leaves_eq first, leavesAll_eq others]
end

mutual
/-- What is left of what is left is left. -/
theorem trans : {q r s : Query α} → Reduces q r → Reduces r s → Reduces q s
  | _, _, _, .term, later => later
  | _, _, _, .apply left, .apply later => .apply (transAll left later)
  | _, _, _, .apply left, .collapse later not_score kind =>
    .collapse (transAll left later) not_score kind
  | _, _, _, .collapse left not_score kind, later =>
    .collapse (transAll left (.keep later .nil)) not_score
      (kind.trans (isPositional_eq later).symm)

theorem transAll : {qs rs ss : List (Query α × Option α)} → ReducesAll qs rs → ReducesAll rs ss →
    ReducesAll qs ss
  | _, _, _, .nil, later => later
  | _, _, _, .drop no_leaves others, later => .drop no_leaves (transAll others later)
  | _, _, _, .keep first others, .drop no_leaves later =>
    .drop (by rw [← leaves_eq first, no_leaves]) (transAll others later)
  | _, _, _, .keep first others, .keep again later =>
    .keep (trans first again) (transAll others later)
end

end Reduces

/-! ### What passes leave -/

theorem reduces_collapsed? {q inner : Query α} (collapses : q.collapsed? = some inner) :
    Reduces q inner := by
  obtain ⟨op, weights, rfl, not_score, kind⟩ := collapsed?_eq_some collapses
  exact .collapse (.keep (.refl inner) .nil) not_score kind

theorem reduces_collapseOuter (q : Query α) : Reduces q q.collapseOuter := by
  cases collapses : q.collapsed? with
  | none =>
    rw [collapseOuter_of_none collapses]
    exact .refl q
  | some inner =>
    have smaller := size_collapsed?_lt collapses
    rw [collapseOuter_of_some collapses]
    exact (reduces_collapsed? collapses).trans (reduces_collapseOuter inner)
termination_by q.size

/-- Tidied arguments have the weights of the arguments that they come from. -/
theorem weighed_tidyArgs (q : Query α) (qs : List (Query α)) (weights : List α) :
    weighed (tidyArgs (q :: qs)) (tidyWeights (q :: qs) weights) =
      if q.isChildless then weighed (tidyArgs qs) (tidyWeights qs weights.tail)
      else (q.tidied, weights.head?) :: weighed (tidyArgs qs) (tidyWeights qs weights.tail) := by
  have tidied_args : tidyArgs (q :: qs) =
      if q.isChildless then tidyArgs qs else q.tidied :: tidyArgs qs := by
    rw [tidyArgs, tidied]
    cases q.collapsed? <;> rfl
  rw [tidied_args]
  cases weights with
  | nil =>
    rw [tidyWeights_nil, List.tail_nil, tidyWeights_nil]
    split <;> rfl
  | cons w weights =>
    rw [tidyWeights, List.tail_cons]
    split <;> rfl

mutual
theorem reduces_tidy : (q : Query α) → Reduces q q.tidy
  | term _ _ => .term
  | apply _ args weights => .apply (reducesAll_tidy args weights)

/-- A pass drops only what has no leaves, and weights together with their arguments. -/
theorem reducesAll_tidy : (qs : List (Query α)) → (weights : List α) →
    ReducesAll (weighed qs weights) (weighed (tidyArgs qs) (tidyWeights qs weights))
  | [], _ => .nil
  | q :: qs, weights => by
    have others := reducesAll_tidy qs weights.tail
    have first : Reduces q q.tidied := by
      rw [tidied]
      cases collapses : q.collapsed? with
      | none => exact reduces_tidy q
      | some inner => exact reduces_collapsed? collapses
    rw [weighed, weighed_tidyArgs]
    split
    · rename_i childless
      exact .drop (leaves_of_isChildless childless) others
    · exact .keep first others
end

theorem reduces_iterate_pass (n : Nat) (q : Query α) : Reduces q (pass^[n] q) := by
  induction n with
  | zero => exact .refl q
  | succ n ih =>
    rw [Function.iterate_succ_apply']
    exact ih.trans ((reduces_collapseOuter _).trans (reduces_tidy _))

/-- What is left by cleaning may be left. -/
theorem reduces_cleanup (q : Query α) : Reduces q q.cleanup := by
  obtain ⟨n, -, -, -, same⟩ := cleanup_eq_iterate q
  rw [same]
  exact reduces_iterate_pass (n + 1) q

/-! ### Unique normal forms -/

/-- Where normal queries are left of arguments, there is a leaf for each of them. -/
theorem leaves_ne_nil_of_reduces {q r : Query α} (reduces : Reduces q r) (normal : Normal r)
    (some_args : r.isChildless = false) : q.leaves ≠ [] := by
  rw [← reduces.leaves_eq]
  exact normal.leaves_ne_nil some_args

theorem isChildless_eq_false_of_leaves {q : Query α} (some_leaf : q.leaves ≠ []) :
    q.isChildless = false := by
  rw [Bool.eq_false_iff]
  intro childless
  exact some_leaf (leaves_of_isChildless childless)

/-- The arguments of a normal operator are normal, and none of them is a childless operator. -/
theorem Normal.of_mem_weighed {op : Operator} {args : List (Query α)} {weights : List α}
    (normal : Normal (Query.apply op args weights)) :
    ∀ entry ∈ weighed args weights, Normal entry.1 ∧ entry.1.isChildless = false := by
  intro entry member
  have argument := fst_mem_of_mem_weighed member
  exact ⟨normal.of_apply.1 _ argument, normal.of_apply.2.1 _ argument⟩

/-- A normal operator does not stay over a single argument that it could give way to. -/
theorem Normal.not_single {op : Operator} {rest : List (Query α)} {others : List α} {s : Query α}
    {weight : Option α} (normal : Normal (Query.apply op rest others))
    (single : weighed rest others = [(s, weight)]) (not_score : op ≠ .score) :
    op.isPositional ≠ s.isPositional := by
  intro kind
  have same_args := congrArg (List.map Prod.fst) single
  rw [map_fst_weighed] at same_args
  subst same_args
  have stays := normal.collapsed?_eq_none
  simp [collapsed?, not_score, kind] at stays

mutual
/-- At most one normal query may be left of a query with leaves. -/
theorem Reduces.unique : (q : Query α) → {r s : Query α} → Reduces q r → Reduces q s →
    Normal r → Normal s → q.leaves ≠ [] → r = s
  | .term _ _, _, _, .term, .term, _, _, _ => rfl
  | .apply op args weights, r, s, first, second, r_normal, s_normal, some_leaf => by
    have r_args := isChildless_eq_false_of_leaves (first.leaves_eq.trans_ne some_leaf)
    have s_args := isChildless_eq_false_of_leaves (second.leaves_eq.trans_ne some_leaf)
    cases first with
    | apply left =>
      cases second with
      | apply right =>
        have same := ReducesAll.unique args weights left right r_normal.of_mem_weighed
          s_normal.of_mem_weighed
        obtain ⟨rfl, rfl⟩ := weighed_inj same r_normal.of_apply.2.2 s_normal.of_apply.2.2
        rfl
      | collapse right not_score kind =>
        have same := ReducesAll.unique args weights left right r_normal.of_mem_weighed
          (List.forall_mem_singleton.2 ⟨s_normal, s_args⟩)
        exact absurd kind (r_normal.not_single same not_score)
    | collapse left not_score kind =>
      cases second with
      | apply right =>
        have same := ReducesAll.unique args weights right left s_normal.of_mem_weighed
          (List.forall_mem_singleton.2 ⟨r_normal, r_args⟩)
        exact absurd kind (s_normal.not_single same not_score)
      | collapse right _ _ =>
        have same := ReducesAll.unique args weights left right
          (List.forall_mem_singleton.2 ⟨r_normal, r_args⟩)
          (List.forall_mem_singleton.2 ⟨s_normal, s_args⟩)
        exact congrArg Prod.fst (List.cons.inj same).1

/-- The normal queries that may be left of arguments, none of them a childless operator, are
determined by the arguments. -/
theorem ReducesAll.unique : (qs : List (Query α)) → (weights : List α) →
    {rs ss : List (Query α × Option α)} → ReducesAll (weighed qs weights) rs →
    ReducesAll (weighed qs weights) ss →
    (∀ r ∈ rs, Normal r.1 ∧ r.1.isChildless = false) →
    (∀ s ∈ ss, Normal s.1 ∧ s.1.isChildless = false) → rs = ss
  | [], _, _, _, .nil, .nil, _, _ => rfl
  | q :: qs, weights, _, _, .drop _ left, .drop _ right, rs_normal, ss_normal =>
    ReducesAll.unique qs weights.tail left right rs_normal ss_normal
  | q :: qs, weights, _, _, .keep first left, .keep second right, rs_normal, ss_normal => by
    obtain ⟨⟨r_normal, r_args⟩, rs_normal⟩ := List.forall_mem_cons.1 rs_normal
    obtain ⟨⟨s_normal, -⟩, ss_normal⟩ := List.forall_mem_cons.1 ss_normal
    have some_leaf := leaves_ne_nil_of_reduces first r_normal r_args
    rw [Reduces.unique q first second r_normal s_normal some_leaf,
      ReducesAll.unique qs weights.tail left right rs_normal ss_normal]
  | q :: qs, weights, _, _, .drop no_leaves left, .keep second right, _, ss_normal => by
    obtain ⟨s_normal, s_args⟩ := ss_normal _ List.mem_cons_self
    exact absurd no_leaves (leaves_ne_nil_of_reduces second s_normal s_args)
  | q :: qs, weights, _, _, .keep first left, .drop no_leaves right, rs_normal, _ => by
    obtain ⟨r_normal, r_args⟩ := rs_normal _ List.mem_cons_self
    exact absurd no_leaves (leaves_ne_nil_of_reduces first r_normal r_args)
end

/-- Cleaning what may be left of a query with leaves leads to the same query as cleaning the query
itself. -/
theorem Reduces.cleanup_eq {q r : Query α} (reduces : Reduces q r) (some_leaf : q.leaves ≠ []) :
    r.cleanup = q.cleanup :=
  Reduces.unique q (reduces.trans (reduces_cleanup r)) (reduces_cleanup q) (normal_cleanup r)
    (normal_cleanup q) some_leaf

/-! ### Where operators come from -/

mutual
/-- Every operator of what is left has stood in the query, over arguments that its own arguments
are left of. -/
theorem Reduces.exists_origin : {q r : Query α} → Reduces q r → ∀ {op args weights},
    apply op args weights ∈ r.nodes → ∃ earlier others, apply op earlier others ∈ q.nodes ∧
      ReducesAll (weighed earlier others) (weighed args weights)
  | _, _, .term, _, _, _, member => by simp [nodes] at member
  | _, _, @Reduces.apply _ _ before rest weights others left, _, _, _, member => by
    rcases List.mem_cons.1 member with same | inside
    · obtain ⟨rfl, rfl, rfl⟩ := Query.apply.inj same
      exact ⟨before, weights, mem_nodes_self _, left⟩
    · rw [← map_fst_weighed rest others] at inside
      obtain ⟨earlier, others, origin, left⟩ := ReducesAll.exists_origin left inside
      rw [map_fst_weighed] at origin
      exact ⟨earlier, others, List.mem_cons_of_mem _ origin, left⟩
  | _, r, .collapse left _ _, _, _, _, member => by
    have inside := List.mem_append_left (nodesAll []) member
    obtain ⟨earlier, others, origin, left⟩ := ReducesAll.exists_origin left inside
    rw [map_fst_weighed] at origin
    exact ⟨earlier, others, List.mem_cons_of_mem _ origin, left⟩

theorem ReducesAll.exists_origin : {qs rs : List (Query α × Option α)} → ReducesAll qs rs →
    ∀ {op args weights}, apply op args weights ∈ nodesAll (rs.map Prod.fst) →
      ∃ earlier others, apply op earlier others ∈ nodesAll (qs.map Prod.fst) ∧
        ReducesAll (weighed earlier others) (weighed args weights)
  | _, _, .nil, _, _, _, member => by simp [nodesAll] at member
  | _, _, .drop _ others, _, _, _, member => by
    obtain ⟨earlier, weights, origin, left⟩ := ReducesAll.exists_origin others member
    exact ⟨earlier, weights, List.mem_append_right _ origin, left⟩
  | _, _, .keep first others, _, _, _, member => by
    rcases List.mem_append.1 member with here | later
    · obtain ⟨earlier, weights, origin, left⟩ := Reduces.exists_origin first here
      exact ⟨earlier, weights, List.mem_append_left _ origin, left⟩
    · obtain ⟨earlier, weights, origin, left⟩ := ReducesAll.exists_origin others later
      exact ⟨earlier, weights, List.mem_append_right _ origin, left⟩
end

/-- What is left of arguments that all have a weight has weights. -/
theorem ReducesAll.forall_isSome : {qs rs : List (Query α × Option α)} → ReducesAll qs rs →
    (∀ entry ∈ qs, entry.2.isSome) → ∀ entry ∈ rs, entry.2.isSome
  | _, _, .nil, all => all
  | _, _, .drop _ others, all => others.forall_isSome (List.forall_mem_cons.1 all).2
  | _, _, .keep _ others, all => by
    obtain ⟨first, later⟩ := List.forall_mem_cons.1 all
    exact List.forall_mem_cons.2 ⟨first, others.forall_isSome later⟩

/-! ### Queries that are put together -/

/-- A query that is put together argument by argument, beginning with operators that have none. -/
inductive Appended [NatCast α] : Query α → Prop where
  /-- A term. -/
  | term {stem field : String} : Appended (term stem field)
  /-- An operator without arguments. -/
  | start (op : Operator) : Appended (apply op [] [])
  /-- An operator with one more argument. -/
  | append {op : Operator} {args : List (Query α)} {weights : List α} {arg : Query α}
      (whole : Appended (apply op args weights)) (arg_appended : Appended arg)
      (weight : Option α) : Appended ((apply op args weights).append arg weight)

theorem nodesAll_append (qs rs : List (Query α)) :
    nodesAll (qs ++ rs) = nodesAll qs ++ nodesAll rs := by
  induction qs with
  | nil => rfl
  | cons q qs ih => rw [List.cons_append, nodesAll, nodesAll, ih, List.append_assoc]

/-- A weighted operator that is put together has a weight for each argument, and no other operator
has weights. -/
theorem Appended.length_weights_eq [NatCast α] {q : Query α} (appended : Appended q) :
    ∀ {op args weights}, apply op args weights ∈ q.nodes →
      weights.length = if op.isWeighted then args.length else 0 := by
  induction appended with
  | term =>
    intro op args weights node
    simp [nodes] at node
  | start other =>
    intro op args weights node
    obtain ⟨rfl, rfl, rfl⟩ := Query.apply.inj (List.mem_singleton.1 node)
    exact (ite_self 0).symm
  | @append other before earlier arg whole _ weight ih arg_ih =>
    intro op args weights node
    rcases List.mem_cons.1 node with same | inside
    · obtain ⟨rfl, rfl, rfl⟩ := Query.apply.inj same
      have lengths := ih (mem_nodes_self (apply op before earlier))
      split
      · rename_i weighted
        rw [if_pos weighted] at lengths
        rw [List.length_append, List.length_append, lengths]
        rfl
      · rename_i unweighted
        rwa [if_neg unweighted] at lengths
    rw [nodesAll_append, List.mem_append] at inside
    rcases inside with among | last
    · exact ih (List.mem_cons_of_mem _ among)
    · rw [nodesAll, nodesAll, List.append_nil, under] at last
      split at last
      · rcases List.mem_cons.1 last with same | inner
        · obtain ⟨rfl, -, rfl⟩ := Query.apply.inj same
          rfl
        · rw [nodesAll, nodesAll, List.append_nil] at inner
          exact arg_ih inner
      · exact arg_ih last

/-- A weighted operator that is put together has a weight for each argument. -/
theorem Appended.length_weights [NatCast α] {q : Query α} (appended : Appended q)
    {op : Operator} {args : List (Query α)} {weights : List α}
    (node : apply op args weights ∈ q.nodes) (weighted : op.isWeighted = true) :
    weights.length = args.length :=
  (appended.length_weights_eq node).trans (if_pos weighted)

/-! ### Clean queries -/

/-- Cleaning ends behind the first pass that finds nothing to do.  In what it leaves no argument is
a childless operator, and no operator other than a `score` has a single argument that is positional
just as the operator is.  The leaves are those of the query.  Where the query is put together
argument by argument, each argument of a weighted operator has a weight, and it is what is left of
an argument that had this weight under the same operator.  Cleaning once more changes nothing. -/
theorem cleanup_normalizes [NatCast α] (q : Query α) :
    (∃ n < q.size, (∀ m < n, (pass^[m] q).changes = true) ∧ (pass^[n] q).changes = false ∧
      q.cleanup = pass^[n + 1] q) ∧
    (∀ part ∈ q.cleanup.nodes, ∀ arg ∈ part.args, arg.isChildless = false) ∧
    (∀ op arg weights, apply op [arg] weights ∈ q.cleanup.nodes → op ≠ .score →
      op.isPositional ≠ arg.isPositional) ∧
    q.cleanup.leaves = q.leaves ∧
    (Appended q → ∀ op args weights, apply op args weights ∈ q.cleanup.nodes →
      op.isWeighted = true → weights.length = args.length ∧
        ∃ earlier others, apply op earlier others ∈ q.nodes ∧
          ReducesAll (weighed earlier others) (weighed args weights)) ∧
    q.cleanup.cleanup = q.cleanup := by
  have normal := (normal_cleanup q).of_mem_nodes
  refine ⟨cleanup_eq_iterate q, ?_, ?_, leaves_cleanup q, ?_, cleanup_cleanup q⟩
  · intro part node arg member
    cases part with
    | term => simp [Query.args] at member
    | apply op args weights => exact (normal _ node).of_apply.2.1 arg member
  · intro op arg weights node not_score
    exact (normal _ node).not_single rfl not_score
  · intro appended op args weights node weighted
    obtain ⟨earlier, others, origin, left⟩ := (reduces_cleanup q).exists_origin node
    have all_weighed := forall_isSome_weighed_iff.2 (appended.length_weights origin weighted).ge
    have enough := forall_isSome_weighed_iff.1 (left.forall_isSome all_weighed)
    exact ⟨Nat.le_antisymm (normal _ node).of_apply.2.2 enough, earlier, others, origin, left⟩

/-- A weighted operator that loses one argument and keeps two others, of which one stood inside of
two operators. -/
theorem cleanup_normalizes_nested :
    let empty : Query ℕ := (apply .and [] []).append (apply .syn [] []) none
    let wrapped : Query ℕ :=
      (apply .and [] []).append ((apply .or [] []).append (term "dog" "body") none) none
    let q := (((apply .wsum [] []).append empty (some 1)).append wrapped (some 2)).append
      (term "cat" "body") (some 3)
    let clean : Query ℕ :=
      apply .wsum [(term "dog" "body").scored, (term "cat" "body").scored] [2, 3]
    Appended q ∧ q.cleanup = clean ∧ ∃ earlier others, apply .wsum earlier others ∈ q.nodes ∧
      ReducesAll (weighed earlier others)
        [((term "dog" "body").scored, some 2), ((term "cat" "body").scored, some 3)] := by
  intro empty wrapped q clean
  have appended : Appended q := by
    refine .append (.append (.append (.start _) ?_ _) ?_ _) .term _
    · exact .append (.start _) (.start _) _
    · exact .append (.start _) (.append (.start _) .term _) _
  have cleaned : q.cleanup = clean := rfl
  have node : apply .wsum clean.args [2, 3] ∈ q.cleanup.nodes := by
    rw [cleaned]
    exact mem_nodes_self clean
  obtain ⟨-, -, -, -, weights, -⟩ := cleanup_normalizes q
  obtain ⟨-, origin⟩ := weights appended .wsum clean.args [2, 3] node rfl
  exact ⟨appended, cleaned, origin⟩

end RankedRetrieval.Query
