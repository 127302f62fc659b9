import Mathlib.Data.Real.Basic
import RankedRetrieval.Features.Normalization
import RankedRetrieval.Proofs.Exact.Reals

/-!
# Scaling of columns

Normalization is the scaling of every column between its least and its greatest value.

## Main Definitions

* `FeatureVector.cells` — the cells of a column, row by row
* `FeatureVector.present` — the values that are present in a column
* `FeatureVector.rescale` — a value in relation to two bounds
* `FeatureVector.scaleColumn` — the rows with one column scaled in place

## Main Results

* `FeatureVector.cells_normalize` — the cells of a scaled column
* `FeatureVector.foldl_scaleColumn` — columns may be scaled in place, one after another
* `FeatureVector.normalize_spec` — what becomes of the values, in exact arithmetic

## Design Notes

**Rows may differ in length.**  A column has one entry for each row here, which is `none` where the
row ends before the column.  So rows are known from their columns, and everything that is said of
rows can be said of columns, and the values of a column are those of its cells.

**The bounds of a column are known from its set of values.**  This is why neither the order of the
rows nor the number of times that a value occurs has an effect on the scaling.
-/

namespace RankedRetrieval.FeatureVector

/-! ### Columns -/

section Columns

variable {α : Type} {rows rows' : List (FeatureVector α)} {n : Nat}

/-- The cells of a column, row by row; there is none where a row ends before the column. -/
def cells (rows : List (FeatureVector α)) (n : Nat) : List (Option (Option α)) :=
  rows.map fun row => row[n]?

theorem column_eq (rows : List (FeatureVector α)) (n : Nat) :
    column rows n = (cells rows n).filterMap Option.join := by
  rw [cells, List.filterMap_map]
  rfl

/-- The values that are present in a column. -/
def present (rows : List (FeatureVector α)) (n : Nat) : Set α :=
  {v | some (some v) ∈ cells rows n}

/-- The values that are gathered from a column are those that are present in it. -/
theorem setOf_mem_column (rows : List (FeatureVector α)) (n : Nat) :
    {v | v ∈ column rows n} = present rows n := by
  ext v
  rw [Set.mem_ofPred_eq, column_eq, List.mem_filterMap]
  constructor
  · rintro ⟨cell, member, value⟩
    rwa [Option.join_eq_some_iff.1 value] at member
  · intro member
    exact ⟨some (some v), member, rfl⟩

/-- Columns with the same cells have the same values. -/
theorem column_congr (same : cells rows n = cells rows' n) : column rows n = column rows' n := by
  rw [column_eq, column_eq, same]

/-- Rows that are mapped have mapped cells, if every row has them. -/
theorem cells_map {f : FeatureVector α → FeatureVector α} {g : Option α → Option α}
    (at_cell : ∀ row ∈ rows, (f row)[n]? = row[n]?.map g) :
    cells (rows.map f) n = (cells rows n).map (Option.map g) := by
  rw [cells, cells, List.map_map, List.map_map]
  exact List.map_congr_left at_cell

/-- The values of a column whose values are mapped. -/
theorem present_of_map {f : α → α} {scaled : List (FeatureVector α)}
    (mapped : cells scaled n = (cells rows n).map (Option.map (Option.map f))) :
    present scaled n = f '' present rows n := by
  ext v
  rw [present, Set.mem_ofPred_eq, mapped, List.mem_map]
  constructor
  · rintro ⟨cell, member, value⟩
    obtain ⟨_, rfl, inner⟩ := Option.map_eq_some_iff.1 value
    obtain ⟨w, rfl, rfl⟩ := Option.map_eq_some_iff.1 inner
    exact ⟨w, member, rfl⟩
  · rintro ⟨w, member, rfl⟩
    exact ⟨some (some w), member, rfl⟩

/-- The values of a column whose cells are all set to one value. -/
theorem eq_of_mem_present {c v : α} {scaled : List (FeatureVector α)}
    (mapped : cells scaled n = (cells rows n).map (Option.map fun _ => some c))
    (member : v ∈ present scaled n) : v = c := by
  rw [present, Set.mem_ofPred_eq, mapped, List.mem_map] at member
  obtain ⟨cell, -, value⟩ := member
  obtain ⟨_, -, same⟩ := Option.map_eq_some_iff.1 value
  exact (Option.some_inj.1 same).symm

/-- Rows are known from their columns. -/
theorem eq_of_cells (same : ∀ n, cells rows n = cells rows' n) : rows = rows' := by
  apply List.ext_getElem?
  intro i
  have at_row : ∀ n : Nat,
      rows[i]?.map (fun row => row[n]?) = rows'[i]?.map (fun row => row[n]?) := by
    intro n
    rw [← List.getElem?_map, ← List.getElem?_map]
    exact congrArg (fun column => column[i]?) (same n)
  cases first : rows[i]? with
  | none => simpa [first] using at_row 0
  | some row =>
    cases second : rows'[i]? with
    | none => simpa [first, second] using at_row 0
    | some row' =>
      rw [Option.some_inj]
      apply List.ext_getElem?
      intro n
      simpa [first, second] using at_row n

/-- Rows whose cells are mapped, each column by a function of its own. -/
theorem eq_mapIdx_of_cells {f : Nat → Option α → Option α} {scaled : List (FeatureVector α)}
    (mapped : ∀ n, cells scaled n = (cells rows n).map (Option.map (f n))) :
    scaled = rows.map fun row => row.mapIdx f := by
  apply eq_of_cells
  intro n
  rw [mapped]
  exact (cells_map fun _ _ => List.getElem?_mapIdx).symm

end Columns

/-! ### Scaled columns -/

section Scaled

variable {α : Type} [Scalar α]

theorem getElem?_scaleFrom (rows : List (FeatureVector α)) (first : Nat) (row : FeatureVector α)
    (i : Nat) :
    (scaleFrom rows first row)[i]? =
      row[i]?.map (scaleCell (bounds? (column rows (first + i)))) := by
  induction row generalizing first i with
  | nil => rfl
  | cons cell row ih =>
    cases i with
    | zero => rfl
    | succ i =>
      rw [scaleFrom, List.getElem?_cons_succ, List.getElem?_cons_succ, ih,
        Nat.add_right_comm, Nat.add_assoc]

/-- The cells of a scaled column. -/
theorem cells_normalize (rows : List (FeatureVector α)) (n : Nat) :
    cells (normalize rows) n =
      (cells rows n).map (Option.map (scaleCell (bounds? (column rows n)))) := by
  rw [normalize]
  apply cells_map
  intro row _
  rw [getElem?_scaleFrom, Nat.zero_add]

/-- Every column is scaled by its own bounds. -/
theorem normalize_eq_mapIdx (rows : List (FeatureVector α)) :
    normalize rows = rows.map fun row => row.mapIdx fun n => scaleCell (bounds? (column rows n)) :=
  eq_mapIdx_of_cells (cells_normalize rows)

theorem map_length_normalize (rows : List (FeatureVector α)) :
    (normalize rows).map List.length = rows.map List.length := by
  rw [normalize_eq_mapIdx, List.map_map]
  apply List.map_congr_left
  intro row _
  exact List.length_mapIdx

theorem cells_normalize_congr {rows rows' : List (FeatureVector α)} {n : Nat}
    (same : cells rows n = cells rows' n) :
    cells (normalize rows) n = cells (normalize rows') n := by
  rw [cells_normalize, cells_normalize, column_congr same, same]

/-- The rows with one column scaled in place. -/
def scaleColumn (rows : List (FeatureVector α)) (n : Nat) : List (FeatureVector α) :=
  rows.map fun row => row.modify n (scaleCell (bounds? (column rows n)))

theorem cells_scaleColumn_self (rows : List (FeatureVector α)) (n : Nat) :
    cells (scaleColumn rows n) n =
      (cells rows n).map (Option.map (scaleCell (bounds? (column rows n)))) :=
  cells_map fun _ _ => List.getElem?_modify_eq _ _ _

theorem cells_scaleColumn_of_ne (rows : List (FeatureVector α)) {m n : Nat} (different : n ≠ m) :
    cells (scaleColumn rows n) m = cells rows m := by
  rw [cells, scaleColumn, cells, List.map_map]
  apply List.map_congr_left
  intro row _
  exact List.getElem?_modify_ne _ _ different

/-- Each column is scaled once, by the bounds that it has in the beginning. -/
theorem cells_foldl_scaleColumn {order : List Nat} (distinct : order.Nodup)
    (rows : List (FeatureVector α)) (n : Nat) :
    cells (order.foldl scaleColumn rows) n =
      if n ∈ order then cells (normalize rows) n else cells rows n := by
  -- The rows change from round to round, but only in columns that do not come again.
  induction order generalizing rows with
  | nil => simp
  | cons m order ih =>
    obtain ⟨fresh, distinct⟩ := List.nodup_cons.1 distinct
    rw [List.foldl_cons, ih distinct]
    by_cases same : n = m
    · subst same
      rw [if_neg fresh, if_pos List.mem_cons_self, cells_scaleColumn_self, cells_normalize]
    · have kept : cells (scaleColumn rows m) n = cells rows n :=
        cells_scaleColumn_of_ne rows (Ne.symm same)
      simp only [List.mem_cons, same, false_or, kept, cells_normalize_congr kept]

/-- Columns may be scaled in place, one after another, in every order. -/
theorem foldl_scaleColumn {order : List Nat} (distinct : order.Nodup)
    {rows : List (FeatureVector α)} (covered : ∀ row ∈ rows, ∀ n < row.length, n ∈ order) :
    order.foldl scaleColumn rows = normalize rows := by
  apply eq_of_cells
  intro n
  rw [cells_foldl_scaleColumn distinct]
  split
  · rfl
  · rename_i missing
    have unreached : ∀ cell ∈ cells rows n, cell = none := by
      intro cell member
      obtain ⟨row, hrow, rfl⟩ := List.mem_map.1 member
      exact List.getElem?_eq_none
        (Nat.le_of_not_lt fun within => missing (covered row hrow n within))
    rw [cells_normalize, eq_comm]
    refine (List.map_congr_left fun cell member => ?_).trans (List.map_id _)
    rw [unreached cell member]
    rfl

end Scaled

/-! ### Rearranged rows -/

section Rearranged

variable {β γ : Type}

/-- The items of a list at some places. -/
def pick (order : List Nat) (xs : List β) : List β :=
  order.filterMap fun i => xs[i]?

theorem pick_map (f : β → γ) (order : List Nat) (xs : List β) :
    pick order (xs.map f) = (pick order xs).map f := by
  rw [pick, pick, List.map_filterMap]
  congr 1
  funext i
  exact List.getElem?_map

theorem pick_range (xs : List β) : pick (List.range xs.length) xs = xs := by
  induction xs with
  | nil => rfl
  | cons x xs ih =>
    rw [pick, List.length_cons, List.range_succ_eq_map, List.filterMap_cons,
      List.filterMap_map]
    exact congrArg (x :: ·) ih

theorem pick_perm {order : List Nat} {xs : List β} (all : order.Perm (List.range xs.length)) :
    (pick order xs).Perm xs := by
  calc pick order xs
      _ |>.Perm (pick (List.range xs.length) xs) := all.filterMap _
      _ = xs := pick_range xs

end Rearranged

/-! ### Exact arithmetic -/

section Exact

variable {xs ys : List ℝ} {low high : ℝ}

theorem bounds_foldl {b : ℝ × ℝ} (least : IsLeast {v | v ∈ xs} b.1)
    (greatest : IsGreatest {v | v ∈ xs} b.2) (ys : List ℝ) :
    let c := ys.foldl (fun b w => (Scalar.lesser b.1 w, Scalar.greater b.2 w)) b
    IsLeast {v | v ∈ xs ++ ys} c.1 ∧ IsGreatest {v | v ∈ xs ++ ys} c.2 := by
  induction ys generalizing xs b with
  | nil =>
    rw [List.append_nil]
    exact ⟨least, greatest⟩
  | cons w ys ih =>
    have more : {v | v ∈ xs ++ [w]} = {v | v ∈ xs} ∪ {w} := by
      ext v
      simp [or_comm]
    rw [List.append_cons]
    refine ih ?_ ?_
    · rw [more]
      exact least.union isLeast_singleton
    · rw [more]
      exact greatest.union isGreatest_singleton

/-- The bounds of values are the least and the greatest of them. -/
theorem bounds?_eq_some_iff :
    bounds? xs = some (low, high) ↔
      IsLeast {v | v ∈ xs} low ∧ IsGreatest {v | v ∈ xs} high := by
  cases xs with
  | nil =>
    constructor
    · intro none_eq
      cases none_eq
    · rintro ⟨⟨member, -⟩, -⟩
      cases member
  | cons v xs =>
    have single : {w | w ∈ [v]} = {v} := by
      ext w
      simp
    have first_least : IsLeast {w | w ∈ [v]} v := by
      rw [single]
      exact isLeast_singleton
    have first_greatest : IsGreatest {w | w ∈ [v]} v := by
      rw [single]
      exact isGreatest_singleton
    obtain ⟨least, greatest⟩ := @bounds_foldl [v] (v, v) first_least first_greatest xs
    constructor
    · intro found
      rw [bounds?, Option.some_inj] at found
      rw [found] at least greatest
      exact ⟨least, greatest⟩
    · rintro ⟨least', greatest'⟩
      rw [bounds?, Option.some_inj]
      exact Prod.ext (least.unique least') (greatest.unique greatest')

theorem bounds?_eq_none_iff : bounds? xs = none ↔ xs = [] := by
  cases xs <;> simp [bounds?]

/-- The bounds are known from the set of values. -/
theorem bounds?_congr (same : ∀ v, v ∈ xs ↔ v ∈ ys) : bounds? xs = bounds? ys := by
  have sets : {v | v ∈ xs} = {v | v ∈ ys} := Set.ext same
  apply Option.ext
  rintro ⟨low, high⟩
  rw [bounds?_eq_some_iff, bounds?_eq_some_iff, sets]

section Bounds

variable {rows : List (FeatureVector ℝ)} {n : Nat}

/-- The bounds of a column are the least and the greatest of the values in it. -/
theorem bounds?_column_eq_some_iff :
    bounds? (column rows n) = some (low, high) ↔
      IsLeast (present rows n) low ∧ IsGreatest (present rows n) high := by
  rw [bounds?_eq_some_iff, setOf_mem_column]

/-- A column has two different values exactly if its bounds are apart. -/
theorem nontrivial_present_iff :
    (present rows n).Nontrivial ↔
      ∃ low high, bounds? (column rows n) = some (low, high) ∧ low < high := by
  constructor
  · rintro ⟨v, hv, w, hw, different⟩
    cases bounded : bounds? (column rows n) with
    | none =>
      rw [← setOf_mem_column, bounds?_eq_none_iff.1 bounded] at hv
      cases hv
    | some b =>
      obtain ⟨least, greatest⟩ := bounds?_column_eq_some_iff.1 bounded
      refine ⟨b.1, b.2, rfl, lt_of_le_of_ne (least.2 greatest.1) ?_⟩
      intro same
      -- All values lie between bounds that are the same.
      have only : ∀ u ∈ present rows n, u = b.1 := fun u hu => by
        have above : u ≤ b.2 := greatest.2 hu
        exact le_antisymm (above.trans same.ge) (least.2 hu)
      exact different ((only v hv).trans (only w hw).symm)
  · rintro ⟨low, high, bounded, apart⟩
    obtain ⟨least, greatest⟩ := bounds?_column_eq_some_iff.1 bounded
    exact ⟨low, least.1, high, greatest.1, apart.ne⟩

end Bounds

/-- A value in relation to two bounds: the lower one is zero, the upper one is one. -/
noncomputable def rescale (low high v : ℝ) : ℝ :=
  (v - low) / (high - low)

theorem rescale_low (low high : ℝ) : rescale low high low = 0 := by
  rw [rescale, sub_self, zero_div]

theorem rescale_high (apart : low < high) : rescale low high high = 1 :=
  div_self (sub_ne_zero_of_ne apart.ne')

theorem rescale_strictMono (apart : low < high) : StrictMono (rescale low high) := by
  intro v w less
  exact div_lt_div_of_pos_right (sub_lt_sub_right less low) (sub_pos.2 apart)

theorem rescale_zero_one (v : ℝ) : rescale 0 1 v = v := by
  rw [rescale, sub_zero, sub_zero, div_one]

theorem scaleCell_of_lt (apart : low < high) :
    scaleCell (some (low, high)) = Option.map (rescale low high) := by
  funext cell
  have less : Scalar.less low high = true := decide_eq_true apart
  rw [scaleCell, if_pos less]
  rfl

variable {rows : List (FeatureVector ℝ)} {n : Nat}

theorem scaleCell_of_uniform (uniform : ¬ (present rows n).Nontrivial) :
    scaleCell (bounds? (column rows n)) = fun _ => some 0 := by
  funext cell
  have zero : (Scalar.ofNat 0 : ℝ) = 0 := Nat.cast_zero
  cases bounded : bounds? (column rows n) with
  | none => rw [scaleCell, zero]
  | some b =>
    have together : ¬ b.1 < b.2 := fun apart =>
      uniform (nontrivial_present_iff.2 ⟨b.1, b.2, bounded, apart⟩)
    have no_less : ¬ (Scalar.less b.1 b.2 = true) := by
      intro less
      exact together (of_decide_eq_true less)
    rw [scaleCell, if_neg no_less, zero]

/-- The cells of a column with two different values. -/
theorem cells_normalize_of_lt (bounded : bounds? (column rows n) = some (low, high))
    (apart : low < high) :
    cells (normalize rows) n =
      (cells rows n).map (Option.map (Option.map (rescale low high))) := by
  rw [cells_normalize, bounded, scaleCell_of_lt apart]

/-- The cells of a column without two different values. -/
theorem cells_normalize_of_uniform (uniform : ¬ (present rows n).Nontrivial) :
    cells (normalize rows) n = (cells rows n).map (Option.map fun _ => some 0) := by
  rw [cells_normalize, scaleCell_of_uniform uniform]

/-- The bounds of a scaled column. -/
theorem bounds?_column_normalize (bounded : bounds? (column rows n) = some (low, high))
    (apart : low < high) : bounds? (column (normalize rows) n) = some (0, 1) := by
  obtain ⟨least, greatest⟩ := bounds?_column_eq_some_iff.1 bounded
  have mono : Monotone (rescale low high) := (rescale_strictMono apart).monotone
  have image : present (normalize rows) n = rescale low high '' present rows n :=
    present_of_map (cells_normalize_of_lt bounded apart)
  rw [bounds?_column_eq_some_iff, image, ← rescale_low low high, ← rescale_high apart]
  exact ⟨mono.map_isLeast least, mono.map_isGreatest greatest⟩

/-- Rows that are scaled are not changed by scaling them again. -/
theorem normalize_normalize (rows : List (FeatureVector ℝ)) :
    normalize (normalize rows) = normalize rows := by
  apply eq_of_cells
  intro n
  by_cases varied : (present rows n).Nontrivial
  · obtain ⟨low, high, bounded, apart⟩ := nontrivial_present_iff.1 varied
    rw [cells_normalize_of_lt (bounds?_column_normalize bounded apart) zero_lt_one]
    have unchanged : rescale 0 1 = id := funext rescale_zero_one
    rw [unchanged, Option.map_id, Option.map_id, List.map_id]
  · have zeros := cells_normalize_of_uniform varied
    have uniform : ¬ (present (normalize rows) n).Nontrivial := by
      rintro ⟨v, hv, w, hw, different⟩
      exact different ((eq_of_mem_present zeros hv).trans (eq_of_mem_present zeros hw).symm)
    rw [cells_normalize_of_uniform uniform, zeros, List.map_map]
    apply List.map_congr_left
    intro cell _
    cases cell <;> rfl

/-- Rows in another order are scaled like the rows in their first order. -/
theorem normalize_pick {order : List Nat} (all : order.Perm (List.range rows.length)) :
    normalize (pick order rows) = pick order (normalize rows) := by
  apply eq_of_cells
  intro n
  have same : bounds? (column (pick order rows) n) = bounds? (column rows n) := by
    apply bounds?_congr
    intro v
    exact ((pick_perm all).filterMap _).mem_iff
  rw [cells_normalize, same, cells, cells, ← pick_map, ← pick_map, ← pick_map]
  congr 1
  exact (cells_normalize rows n).symm

/-- Normalization keeps the lengths of the rows and scales every column by itself.  A column with
two different values is scaled between its least and its greatest value, so that zero and one are
the least and the greatest of its values then, the values keep their order, and missing cells stay
missing.  Every other column becomes zero wherever a row reaches it.  No column has an influence on
another, so that columns may be scaled in place, one after another; rows in another order are scaled
alike; and rows that are scaled are not changed by scaling them again. -/
theorem normalize_spec (rows : List (FeatureVector ℝ)) :
    (normalize rows).map List.length = rows.map List.length ∧
    (∀ n, (present rows n).Nontrivial → ∃ low high,
      IsLeast (present rows n) low ∧ IsGreatest (present rows n) high ∧
      cells (normalize rows) n =
        (cells rows n).map (Option.map (Option.map (rescale low high))) ∧
      IsLeast (present (normalize rows) n) 0 ∧ IsGreatest (present (normalize rows) n) 1 ∧
      (∀ v ∈ present (normalize rows) n, 0 ≤ v ∧ v ≤ 1) ∧
      rescale low high low = 0 ∧ rescale low high high = 1 ∧
      StrictMono (rescale low high)) ∧
    (∀ n, ¬ (present rows n).Nontrivial →
      cells (normalize rows) n = (cells rows n).map (Option.map fun _ => some 0)) ∧
    (∀ rows' n, cells rows' n = cells rows n →
      cells (normalize rows') n = cells (normalize rows) n) ∧
    (∀ order : List Nat, order.Nodup → (∀ row ∈ rows, ∀ n < row.length, n ∈ order) →
      order.foldl scaleColumn rows = normalize rows) ∧
    (∀ order : List Nat, order.Perm (List.range rows.length) →
      normalize (pick order rows) = pick order (normalize rows)) ∧
    normalize (normalize rows) = normalize rows := by
  refine ⟨map_length_normalize rows, ?_, ?_, ?_, ?_, ?_, ?_⟩
  · intro n varied
    obtain ⟨low, high, bounded, apart⟩ := nontrivial_present_iff.1 varied
    obtain ⟨least, greatest⟩ := bounds?_column_eq_some_iff.1 bounded
    obtain ⟨least', greatest'⟩ :=
      bounds?_column_eq_some_iff.1 (bounds?_column_normalize bounded apart)
    refine ⟨low, high, least, greatest, cells_normalize_of_lt bounded apart, least', greatest',
      ?_, rescale_low low high, rescale_high apart, rescale_strictMono apart⟩
    intro v member
    exact ⟨least'.2 member, greatest'.2 member⟩
  · intro n uniform
    exact cells_normalize_of_uniform uniform
  · intro rows' n same
    exact cells_normalize_congr same
  · intro order distinct covered
    exact foldl_scaleColumn distinct covered
  · intro order all
    exact normalize_pick all
  · exact normalize_normalize rows

end Exact

end RankedRetrieval.FeatureVector
