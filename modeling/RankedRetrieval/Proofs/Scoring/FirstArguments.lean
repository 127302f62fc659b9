import RankedRetrieval.Proofs.Scoring.Repeats

/-!
# First arguments

What folding leaves of some arguments are those that repeat no earlier one.  Two operators over the
same arguments may take different ones for repeats, and still combine the same values.

## Main Definitions

* `SameKey` — elements that are taken for repeats of one another
* `firsts` — what is left of a list when repeats of earlier elements are dropped
* `SameValues` — two ways of telling repeats by which the elements that are left have the same
  values

## Main Results

* `Query.items_scoredArgs` — folding leaves the arguments that repeat no earlier one
* `SameValues.mem_iff` — the elements that are left in both ways have the same values
* `SameValues.foldl_eq` — whatever does not change with repeats is the same of both

## Design Notes

An element that one of the two ways drops need not have a value.  So nothing is said of what both of
them drop, and the two lists are compared as they grow: an element that only one of them takes up
has a value that is already among those of the other one.
-/

namespace RankedRetrieval

variable {ι κ γ σ : Type}

/-! ### Elements without repeats -/

/-- Elements that are taken for repeats of one another: they have a key, and it is the same. -/
def SameKey (key : ι → Option String) (x y : ι) : Prop :=
  (key x).isSome ∧ key x = key y

instance decidableSameKey (key : ι → Option String) (x y : ι) : Decidable (SameKey key x y) :=
  inferInstanceAs (Decidable ((key x).isSome ∧ key x = key y))

theorem SameKey.symm {key : ι → Option String} {x y : ι} (same : SameKey key x y) :
    SameKey key y x :=
  ⟨same.2 ▸ same.1, same.2.symm⟩

/-- Some elements and one more, unless that repeats one of them. -/
def keepFirst (key : ι → Option String) (kept : List ι) (x : ι) : List ι :=
  if ∃ y ∈ kept, SameKey key x y then kept else kept ++ [x]

/-- What is left of a list when repeats of earlier elements are dropped. -/
def firsts (key : ι → Option String) (xs : List ι) : List ι :=
  xs.foldl (keepFirst key) []

section Firsts

variable {key : ι → Option String} {xs : List ι} {x : ι}

theorem firsts_append_singleton (key : ι → Option String) (xs : List ι) (x : ι) :
    firsts key (xs ++ [x]) = keepFirst key (firsts key xs) x := by
  rw [firsts, List.foldl_append]
  rfl

theorem firsts_append_of_repeated (repeated : ∃ y ∈ firsts key xs, SameKey key x y) :
    firsts key (xs ++ [x]) = firsts key xs := by
  rw [firsts_append_singleton, keepFirst, if_pos repeated]

theorem firsts_append_of_fresh (fresh : ¬ ∃ y ∈ firsts key xs, SameKey key x y) :
    firsts key (xs ++ [x]) = firsts key xs ++ [x] := by
  rw [firsts_append_singleton, keepFirst, if_neg fresh]

theorem mem_firsts_append (fresh : ¬ ∃ y ∈ firsts key xs, SameKey key x y) :
    x ∈ firsts key (xs ++ [x]) := by
  rw [firsts_append_of_fresh fresh]
  exact List.mem_append_right _ (List.mem_singleton_self x)

/-- What is left of a list is left of a longer one. -/
theorem firsts_subset_append (key : ι → Option String) (xs : List ι) (x : ι) :
    firsts key xs ⊆ firsts key (xs ++ [x]) := by
  by_cases repeated : ∃ y ∈ firsts key xs, SameKey key x y
  · rw [firsts_append_of_repeated repeated]
    exact List.Subset.refl _
  · rw [firsts_append_of_fresh repeated]
    exact List.subset_append_left _ [x]

/-- Nothing is left but elements of the list. -/
theorem mem_of_mem_firsts (member : x ∈ firsts key xs) : x ∈ xs := by
  induction xs using List.reverseRecOn with
  | nil => exact member
  | append_singleton xs last ih =>
    rw [firsts_append_singleton, keepFirst] at member
    split at member
    · exact List.mem_append_left _ (ih member)
    · rcases List.mem_append.1 member with earlier | is_last
      · exact List.mem_append_left _ (ih earlier)
      · exact List.mem_append_right _ is_last

/-- For every element it is left itself or one that it repeats. -/
theorem exists_mem_firsts (key : ι → Option String) (member : x ∈ xs) :
    ∃ y ∈ firsts key xs, x = y ∨ SameKey key x y := by
  induction xs using List.reverseRecOn with
  | nil => cases member
  | append_singleton xs last ih =>
    rcases List.mem_append.1 member with earlier | is_last
    · obtain ⟨y, hy, either⟩ := ih earlier
      exact ⟨y, firsts_subset_append key xs last hy, either⟩
    · obtain rfl := List.mem_singleton.1 is_last
      by_cases repeated : ∃ y ∈ firsts key xs, SameKey key x y
      · obtain ⟨y, hy, same⟩ := repeated
        exact ⟨y, firsts_subset_append key xs x hy, .inr same⟩
      · exact ⟨x, mem_firsts_append repeated, .inl rfl⟩

/-- Without keys there are no repeats. -/
theorem firsts_none (xs : List ι) : firsts (fun _ => none) xs = xs := by
  induction xs using List.reverseRecOn with
  | nil => rfl
  | append_singleton xs x ih =>
    rw [firsts_append_singleton, ih, keepFirst, if_neg]
    rintro ⟨y, -, keyed, -⟩
    cases keyed

theorem keepFirst_map (key : κ → Option String) (g : ι → κ) (kept : List ι) (x : ι) :
    keepFirst key (kept.map g) (g x) = (keepFirst (fun x => key (g x)) kept x).map g := by
  have repeated_iff : (∃ y ∈ kept.map g, SameKey key (g x) y) ↔
      ∃ y ∈ kept, SameKey (fun x => key (g x)) x y := by
    simp only [List.mem_map, exists_exists_and_eq_and]
    rfl
  rw [keepFirst, keepFirst, apply_ite (List.map g), List.map_append, List.map_singleton]
  exact if_congr repeated_iff rfl rfl

theorem firsts_map (key : κ → Option String) (g : ι → κ) (xs : List ι) :
    firsts key (xs.map g) = (firsts (fun x => key (g x)) xs).map g := by
  induction xs using List.reverseRecOn with
  | nil => rfl
  | append_singleton xs x ih =>
    rw [List.map_append, List.map_singleton, firsts_append_singleton, firsts_append_singleton, ih,
      keepFirst_map]

end Firsts

/-! ### Folding -/

namespace Argument

variable {α β : Type} [Scalar α]

theorem map_entry_ofWeights (items : List (Option String × β)) (weights : List α) :
    (ofWeights items weights).map entry = items := by
  induction items generalizing weights with
  | nil => rfl
  | cons head items ih =>
    obtain ⟨key?, item⟩ := head
    cases weights with
    | nil | cons w weights =>
      rw [ofWeights, List.map_cons, ih]
      rfl

theorem map_entry_foldInto (repeated : Argument α β) (args : List (Argument α β)) :
    (foldInto repeated args).map entry = keepFirst Prod.fst (args.map entry) repeated.entry := by
  induction args with
  | nil =>
    refine (if_neg ?_).symm
    rintro ⟨y, hy, -⟩
    cases hy
  | cons f rest ih =>
    rw [foldInto]
    split
    · rename_i repeats
      exact (if_pos ⟨f.entry, List.mem_cons_self, repeats.1, repeats.2.symm⟩).symm
    · rename_i differs
      -- the first argument has another key, so it is looked for among the others
      have elsewhere : (∃ e ∈ (f :: rest).map entry, SameKey Prod.fst repeated.entry e) ↔
          ∃ e ∈ rest.map entry, SameKey Prod.fst repeated.entry e := by
        rw [List.map_cons, List.exists_mem_cons_iff]
        exact or_iff_right fun same => differs ⟨same.1, same.2.symm⟩
      rw [List.map_cons, ih, keepFirst, keepFirst, if_congr elsewhere rfl rfl]
      split <;> rfl

theorem map_entry_foldRepeats (args : List (Argument α β)) :
    (foldRepeats args).map entry = firsts Prod.fst (args.map entry) := by
  induction args using List.reverseRecOn with
  | nil => rfl
  | append_singleton args f ih =>
    rw [foldRepeats_append_singleton, map_entry_foldInto, ih, List.map_append, List.map_singleton,
      firsts_append_singleton]

end Argument

namespace Query

variable {α : Type} [Scalar α] [Numeral α]

/-- The text by which repeats of an argument are recognised under an operator, if it folds them. -/
def keyUnder (op : Operator) (q : Query α) : Option String :=
  if op.foldsRepeats then q.repeatKey? else none

omit [Scalar α] in
theorem repeatKey?_eq_of_sameKey {op : Operator} {q r : Query α}
    (same : SameKey (keyUnder op) q r) : q.repeatKey?.isSome ∧ q.repeatKey? = r.repeatKey? := by
  unfold SameKey keyUnder at same
  split at same
  · exact same
  · cases same.1

/-- Folding leaves the arguments that repeat no earlier one. -/
theorem items_scoredArgs (op : Operator) (args : List (Query α)) (weights : List α) :
    (scoredArgs op args weights).map Argument.item = firsts (keyUnder op) args := by
  have second : (Argument.item : Argument α (Query α) → Query α) = Prod.snd ∘ Argument.entry := rfl
  have entries : (scoredArgs op args weights).map Argument.entry =
      (firsts (keyUnder op) args).map fun q => (q.repeatKey?, q) := by
    rw [scoredArgs, Argument.forOperator]
    split
    · rename_i folds
      have same_key : (keyUnder op : Query α → Option String) = repeatKey? :=
        funext fun q => if_pos folds
      rw [Argument.map_entry_foldRepeats, Argument.map_entry_ofWeights, firsts_map, same_key]
    · rename_i keeps
      have no_key : (keyUnder op : Query α → Option String) = fun _ => none :=
        funext fun q => if_neg keeps
      rw [Argument.map_entry_ofWeights, no_key, firsts_none]
  rw [second, ← List.map_map, entries, List.map_map]
  exact List.map_id _

end Query

/-! ### Two ways of telling repeats -/

/-- Two ways of telling repeats, and two values, which are the same of an element that is left in
one way and the element in its place that is left in the other way. -/
def SameValues (key key' : ι → Option String) (value value' : ι → γ) (xs : List ι) : Prop :=
  ∀ x ∈ firsts key xs, ∀ y ∈ firsts key' xs, x = y ∨ SameKey key x y ∨ SameKey key' x y →
    value x = value' y

namespace SameValues

variable {key key' : ι → Option String} {value value' : ι → γ} {xs : List ι}

theorem symm (same : SameValues key key' value value' xs) :
    SameValues key' key value' value xs := by
  intro y hy x hx either
  refine (same x hx y hy ?_).symm
  rcases either with rfl | other | own
  · exact .inl rfl
  · exact .inr (.inr other.symm)
  · exact .inr (.inl own.symm)

/-- What has the same values under two keys has them at the beginning of a list too. -/
theorem of_append {x : ι} (same : SameValues key key' value value' (xs ++ [x])) :
    SameValues key key' value value' xs :=
  fun y hy z hz => same y (firsts_subset_append key xs x hy) z (firsts_subset_append key' xs x hz)

theorem mem_of_mem (same : SameValues key key' value value' xs) {v : γ}
    (member : v ∈ (firsts key xs).map value) : v ∈ (firsts key' xs).map value' := by
  obtain ⟨x, hx, rfl⟩ := List.mem_map.1 member
  obtain ⟨y, hy, either⟩ := exists_mem_firsts key' (mem_of_mem_firsts hx)
  exact List.mem_map.2 ⟨y, hy, (same x hx y hy (either.imp_right .inr)).symm⟩

/-- The elements that are left in both ways have the same values. -/
theorem mem_iff (same : SameValues key key' value value' xs) (v : γ) :
    v ∈ (firsts key xs).map value ↔ v ∈ (firsts key' xs).map value' :=
  ⟨same.mem_of_mem, same.symm.mem_of_mem⟩

section Absorbing

variable {f : σ → γ → σ} {start : σ}
  (absorbs : ∀ (vs : List γ) (v : γ), v ∈ vs → f (vs.foldl f start) v = vs.foldl f start)

include absorbs

/-- An element that is left in one way only has a value that the other way has come to before. -/
theorem foldl_eq_of_dropped {x : ι} (same : SameValues key key' value value' (xs ++ [x]))
    (fresh : ¬ ∃ y ∈ firsts key xs, SameKey key x y)
    (repeated : ∃ y ∈ firsts key' xs, SameKey key' x y)
    (earlier : ((firsts key xs).map value).foldl f start =
      ((firsts key' xs).map value').foldl f start) :
    ((firsts key (xs ++ [x])).map value).foldl f start =
      ((firsts key' (xs ++ [x])).map value').foldl f start := by
  have dropped := firsts_append_of_repeated repeated
  have member : value x ∈ (firsts key' (xs ++ [x])).map value' :=
    same.mem_of_mem (List.mem_map_of_mem (mem_firsts_append fresh))
  rw [dropped] at member ⊢
  rw [firsts_append_of_fresh fresh, List.map_append, List.foldl_append, earlier]
  exact absorbs _ _ member

/-- Whatever does not change with repeats is the same of both. -/
theorem foldl_eq (same : SameValues key key' value value' xs) :
    ((firsts key xs).map value).foldl f start = ((firsts key' xs).map value').foldl f start := by
  induction xs using List.reverseRecOn with
  | nil => rfl
  | append_singleton xs x ih =>
    have earlier := ih same.of_append
    by_cases repeats : ∃ y ∈ firsts key xs, SameKey key x y <;>
      by_cases repeats' : ∃ y ∈ firsts key' xs, SameKey key' x y
    · rw [firsts_append_of_repeated repeats, firsts_append_of_repeated repeats']
      exact earlier
    · exact (same.symm.foldl_eq_of_dropped absorbs repeats' repeats earlier.symm).symm
    · exact same.foldl_eq_of_dropped absorbs repeats repeats' earlier
    · have same_last : value x = value' x :=
        same x (mem_firsts_append repeats) x (mem_firsts_append repeats') (.inl rfl)
      rw [firsts_append_of_fresh repeats, firsts_append_of_fresh repeats', List.map_append,
        List.map_append, List.foldl_append, List.foldl_append, earlier]
      exact congrArg (f _) same_last

end Absorbing

end SameValues

end RankedRetrieval
