import Mathlib.Data.List.Forall2
import RankedRetrieval.Positional.Merge

/-!
# Positions that a merge selects

Inside a document, operators that ask for all of their arguments select some of the positions of
the arguments, in order.

## Main Definitions

* `Merge.Selects` — what is asked of a function from position lists to positions

## Main Results

* `Merge.nearOccurrences_sublist` — chains end at positions of the last list, in its order
* `Merge.spans_pairwise`, `Merge.mem_spans` — spans end at positions of the lists, in order
* `Merge.selects_nearOccurrences`, `Merge.selects_windowOccurrences` — both functions select

## Design Notes

Positions may repeat: a list that unites two lists holds what they share twice.  So positions
never decrease, and that is all that is asked of the lists and promised of the result.
-/

namespace RankedRetrieval

/-- What is related place by place has a partner for everything in it. -/
theorem exists_of_forall₂ {β γ : Type} {R : β → γ → Prop} {xs : List β} {ys : List γ}
    (related : List.Forall₂ R xs ys) {x : β} (member : x ∈ xs) : ∃ y ∈ ys, R x y := by
  induction related with
  | nil => simp at member
  | cons head _ ih =>
    rcases List.mem_cons.1 member with rfl | later
    · exact ⟨_, List.mem_cons_self, head⟩
    · obtain ⟨y, hy, rel⟩ := ih later
      exact ⟨y, List.mem_cons_of_mem _ hy, rel⟩

namespace Merge

/-- A function that selects positions of lists. -/
structure Selects (occurrences : List (List Nat) → List Nat) : Prop where
  /-- What it selects never decreases. -/
  ascending : ∀ lists, (∀ l ∈ lists, l.Pairwise (· ≤ ·)) → (occurrences lists).Pairwise (· ≤ ·)
  /-- Every selected position stands in a list. -/
  mem : ∀ lists, (∀ l ∈ lists, l.Pairwise (· ≤ ·)) → ∀ p ∈ occurrences lists,
    ∃ l ∈ lists, p ∈ l

/-! ### Chains -/

/-- On ascending positions the search by halving drops those up to a bound. -/
theorem skipPassed_eq_dropWhile_le {positions : List Nat}
    (ascending : positions.Pairwise (· ≤ ·)) (bound : Nat) :
    Cursor.skipPassed (· ≤ bound) positions = positions.dropWhile (· ≤ bound) := by
  apply Cursor.skipPassed_eq_dropWhile
  refine ascending.imp fun {p q} le passed => ?_
  simp only [decide_eq_true_eq] at passed ⊢
  exact Nat.le_trans le passed

/-- An extended chain ends in the last list, and what is left of that list lies behind the
end. -/
theorem extend_last {distance last : Nat} {front left : List (List Nat)} {final : List Nat}
    {reached : Option Nat} (ascending : final.Pairwise (· ≤ ·))
    (extended : extend distance last (front ++ [final]) = some (reached, left)) :
    ∃ front' final', left = front' ++ [final'] ∧ (reached.toList ++ final').Sublist final := by
  induction front generalizing last left with
  | nil =>
    rw [List.nil_append, extend] at extended
    have kept : (Cursor.skipPassed (· ≤ last) final).Sublist final := by
      rw [skipPassed_eq_dropWhile_le ascending]
      exact List.dropWhile_sublist _
    split at extended
    · simp at extended
    · rename_i now later skipped
      rw [skipped] at kept
      split at extended
      · obtain ⟨rfl, rfl⟩ : none = reached ∧ [now :: later] = left := by simpa using extended
        exact ⟨[], now :: later, rfl, kept⟩
      · have passed := skipPassed_eq_dropWhile_le (ascending.sublist kept) now
        rw [passed, List.dropWhile_cons_of_pos (by simp)] at extended
        obtain ⟨rfl, rfl⟩ : some now = reached ∧ [later.dropWhile (· ≤ now)] = left := by
          simpa [extend] using extended
        refine ⟨[], later.dropWhile (· ≤ now), rfl, List.Sublist.trans ?_ kept⟩
        exact (List.dropWhile_sublist _).cons_cons now
  | cons positions front ih =>
    rw [List.cons_append, extend] at extended
    split at extended
    · simp at extended
    · rename_i now later skipped
      split at extended
      · obtain ⟨rfl, rfl⟩ : none = reached ∧ (now :: later) :: (front ++ [final]) = left := by
          simpa using extended
        exact ⟨(now :: later) :: front, final, rfl, List.Sublist.refl final⟩
      · obtain ⟨⟨reached', left'⟩, further, same⟩ := Option.map_eq_some_iff.1 extended
        obtain ⟨rfl, rfl⟩ := Prod.mk.inj same
        obtain ⟨front', final', rfl, sub⟩ := ih further
        exact ⟨_ :: front', final', rfl, sub⟩

theorem chains_nil (distance : Nat) (anchors : List Nat) :
    chains distance anchors [] = anchors := by
  induction anchors with
  | nil => rfl
  | cons anchor anchors ih =>
    rw [chains, extend]
    dsimp only
    rw [ih]

theorem chains_sublist {distance : Nat} {anchors : List Nat} {front : List (List Nat)}
    {final : List Nat} (ascending : final.Pairwise (· ≤ ·)) :
    (chains distance anchors (front ++ [final])).Sublist final := by
  induction anchors generalizing front final with
  | nil => exact List.nil_sublist final
  | cons anchor anchors ih =>
    rw [chains]
    split
    · exact List.nil_sublist final
    · rename_i last left extended
      obtain ⟨front', final', rfl, sub⟩ := extend_last ascending extended
      have behind : final'.Pairwise (· ≤ ·) :=
        ascending.sublist ((List.sublist_append_right _ _).trans sub)
      exact ((ih behind).cons_cons last).trans sub
    · rename_i left extended
      obtain ⟨front', final', rfl, sub⟩ := extend_last ascending extended
      exact (ih (ascending.sublist sub)).trans sub

/-- The chains through several lists end at positions of the last one, in its order. -/
theorem nearOccurrences_sublist (distance : Nat) (front : List (List Nat)) {final : List Nat}
    (ascending : final.Pairwise (· ≤ ·)) :
    (nearOccurrences distance (front ++ [final])).Sublist final := by
  cases front with
  | nil =>
    show (chains distance final []).Sublist final
    rw [chains_nil]
  | cons anchors front => exact chains_sublist ascending

theorem selects_nearOccurrences (distance : Nat) : Selects (nearOccurrences distance) where
  ascending lists ascending := by
    rcases List.eq_nil_or_concat lists with rfl | ⟨front, final, rfl⟩
    · exact List.Pairwise.nil
    · rw [List.concat_eq_append] at ascending ⊢
      have last := ascending final (by simp)
      exact last.sublist (nearOccurrences_sublist distance front last)
  mem lists ascending p member := by
    rcases List.eq_nil_or_concat lists with rfl | ⟨front, final, rfl⟩
    · simp [nearOccurrences] at member
    · rw [List.concat_eq_append] at ascending member ⊢
      have last := ascending final (by simp)
      exact ⟨final, by simp, (nearOccurrences_sublist distance front last).subset member⟩

/-! ### Spans -/

/-- What is left of position lists once some of their first positions are used up. -/
def LeftOf (left lists : List (List Nat)) : Prop :=
  List.Forall₂ (fun later l => later <:+ l) left lists

theorem leftOf_tail (lists : List (List Nat)) : LeftOf (lists.map List.tail) lists := by
  induction lists with
  | nil => exact .nil
  | cons l lists ih => exact .cons (List.tail_suffix l) ih

theorem leftOf_dropLow (low : Nat) (lists : List (List Nat)) :
    LeftOf (dropLow low lists) lists := by
  induction lists with
  | nil => exact .nil
  | cons l lists ih =>
    cases l with
    | nil => exact .cons (List.suffix_refl []) ih
    | cons p positions =>
      rw [dropLow]
      split
      · refine .cons (List.suffix_cons p positions) ?_
        exact List.forall₂_same.2 fun l _ => List.suffix_refl l
      · exact .cons (List.suffix_refl _) ih

/-- What is left of a list is found among what is left of all of them. -/
theorem LeftOf.exists_suffix {left lists : List (List Nat)} (leftOf : LeftOf left lists)
    {l : List Nat} (member : l ∈ lists) : ∃ later ∈ left, later <:+ l :=
  exists_of_forall₂ leftOf.flip member

theorem LeftOf.exists_list {left lists : List (List Nat)} (leftOf : LeftOf left lists)
    {later : List Nat} (member : later ∈ left) : ∃ l ∈ lists, later <:+ l :=
  exists_of_forall₂ leftOf member

/-- What is left of ordered lists is ordered. -/
theorem LeftOf.pairwise {R : Nat → Nat → Prop} {left lists : List (List Nat)}
    (leftOf : LeftOf left lists) (ordered : ∀ l ∈ lists, l.Pairwise R) :
    ∀ l ∈ left, l.Pairwise R := by
  intro later hlater
  obtain ⟨l, hl, suffix⟩ := leftOf.exists_list hlater
  exact (ordered l hl).sublist suffix.sublist

theorem LeftOf.ne_nil {left lists : List (List Nat)} (leftOf : LeftOf left lists)
    (nonempty : lists ≠ []) : left ≠ [] := by
  rintro rfl
  cases leftOf
  exact nonempty rfl

/-- The first positions are found when no list is exhausted. -/
theorem heads?_eq_some {lists : List (List Nat)} {heads : List Nat}
    (found : heads? lists = some heads) : lists.map List.head? = heads.map some := by
  induction lists generalizing heads with
  | nil =>
    obtain rfl : [] = heads := by simpa [heads?] using found
    rfl
  | cons l lists ih =>
    cases l with
    | nil => simp [heads?] at found
    | cons p positions =>
      rw [heads?] at found
      obtain ⟨others, rest, rfl⟩ := Option.map_eq_some_iff.1 found
      rw [List.map_cons, List.map_cons, ih rest]
      rfl

section Heads

variable {lists : List (List Nat)} {heads : List Nat}

theorem exists_head (found : heads? lists = some heads) {l : List Nat} (member : l ∈ lists) :
    ∃ p ∈ heads, l.head? = some p := by
  have first := List.mem_map_of_mem (f := List.head?) member
  rw [heads?_eq_some found] at first
  obtain ⟨p, hp, same⟩ := List.mem_map.1 first
  exact ⟨p, hp, same.symm⟩

/-- The greatest of the first positions is one of them. -/
theorem exists_highest (found : heads? lists = some heads) (nonempty : lists ≠ []) :
    ∃ l ∈ lists, l.head? = some (heads.max?.getD 0) := by
  have some_head : heads ≠ [] := by
    rintro rfl
    have none_left := heads?_eq_some found
    simp at none_left
    exact nonempty none_left
  cases highest : heads.max? with
  | none => exact absurd (List.max?_eq_none_iff.1 highest) some_head
  | some high =>
    have member := List.mem_map_of_mem (f := some) (List.max?_mem highest)
    rw [← heads?_eq_some found] at member
    obtain ⟨l, hl, at_high⟩ := List.mem_map.1 member
    exact ⟨l, hl, at_high⟩

theorem le_highest {p : Nat} (member : p ∈ heads) : p ≤ heads.max?.getD 0 := by
  cases highest : heads.max? with
  | none =>
    rw [List.max?_eq_none_iff.1 highest] at member
    simp at member
  | some high => exact (List.max?_eq_some_iff.1 highest).2 p member

end Heads

/-- Spans end at no position before those of a list that begins behind it. -/
theorem le_of_mem_spans {size fuel bound : Nat} {lists : List (List Nat)} {l : List Nat}
    (member : l ∈ lists) (reached : ∀ x ∈ l, bound ≤ x) :
    ∀ p ∈ spans size fuel lists, bound ≤ p := by
  induction fuel generalizing lists l with
  | zero => simp [spans]
  | succ fuel ih =>
    rw [spans]
    -- whatever is used up, what is left of the list is still not before the bound
    have further {left : List (List Nat)} (leftOf : LeftOf left lists) :
        ∀ p ∈ spans size fuel left, bound ≤ p := by
      obtain ⟨later, hlater, suffix⟩ := leftOf.exists_suffix member
      exact ih hlater fun x hx => reached x (suffix.subset hx)
    split
    · simp
    · rename_i heads found
      dsimp only
      split
      · obtain ⟨first, hfirst, at_first⟩ := exists_head found member
        have before := reached first (List.mem_of_head? at_first)
        exact List.forall_mem_cons.2
          ⟨Nat.le_trans before (le_highest hfirst), further (leftOf_tail lists)⟩
      · exact further (leftOf_dropLow _ lists)

/-- The ends of spans never decrease. -/
theorem spans_pairwise {size fuel : Nat} {lists : List (List Nat)} (nonempty : lists ≠ [])
    (ascending : ∀ l ∈ lists, l.Pairwise (· ≤ ·)) :
    (spans size fuel lists).Pairwise (· ≤ ·) := by
  induction fuel generalizing lists with
  | zero => exact List.Pairwise.nil
  | succ fuel ih =>
    rw [spans]
    have further {left : List (List Nat)} (leftOf : LeftOf left lists) :
        (spans size fuel left).Pairwise (· ≤ ·) :=
      ih (leftOf.ne_nil nonempty) (leftOf.pairwise ascending)
    split
    · exact List.Pairwise.nil
    · rename_i heads found
      dsimp only
      split
      · refine List.pairwise_cons.2 ⟨?_, further (leftOf_tail lists)⟩
        -- the list that begins with the highest position goes on behind it
        obtain ⟨l, hl, at_high⟩ := exists_highest found nonempty
        cases l with
        | nil => simp at at_high
        | cons p positions =>
          obtain rfl : p = heads.max?.getD 0 := by simpa using at_high
          exact le_of_mem_spans (List.mem_map_of_mem (f := List.tail) hl)
            (List.pairwise_cons.1 (ascending _ hl)).1
      · exact further (leftOf_dropLow _ lists)

/-- Spans end at positions of the lists. -/
theorem mem_spans {size fuel : Nat} {lists : List (List Nat)} (nonempty : lists ≠ []) :
    ∀ p ∈ spans size fuel lists, ∃ l ∈ lists, p ∈ l := by
  induction fuel generalizing lists with
  | zero => simp [spans]
  | succ fuel ih =>
    rw [spans]
    have further {left : List (List Nat)} (leftOf : LeftOf left lists) :
        ∀ p ∈ spans size fuel left, ∃ l ∈ lists, p ∈ l := by
      intro p hp
      obtain ⟨later, hlater, within⟩ := ih (leftOf.ne_nil nonempty) p hp
      obtain ⟨l, hl, suffix⟩ := leftOf.exists_list hlater
      exact ⟨l, hl, suffix.subset within⟩
    split
    · simp
    · rename_i heads found
      dsimp only
      split
      · obtain ⟨l, hl, at_high⟩ := exists_highest found nonempty
        exact List.forall_mem_cons.2
          ⟨⟨l, hl, List.mem_of_head? at_high⟩, further (leftOf_tail lists)⟩
      · exact further (leftOf_dropLow _ lists)

theorem selects_windowOccurrences (size : Nat) : Selects (windowOccurrences size) where
  ascending lists ascending := by
    cases lists with
    | nil => exact List.Pairwise.nil
    | cons l lists => exact spans_pairwise (List.cons_ne_nil l lists) ascending
  mem lists _ p member := by
    cases lists with
    | nil => simp [windowOccurrences, spans] at member
    | cons l lists => exact mem_spans (List.cons_ne_nil l lists) p member

end Merge

end RankedRetrieval
