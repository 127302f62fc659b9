import Mathlib.Data.List.Nodup
import Mathlib.Data.List.Perm.Basic
import RankedRetrieval.Proofs.Index.Contents

/-!
# Tokens of an analysed text

The stems and slots that an index keeps of a text say the same as the analysis of the text.

## Main Definitions

* `Text.Analysis.Numbered` — terms at increasing positions within the text

## Main Results

* `Text.numbered_analyze` — the terms of an analysis are numbered
* `FieldTokens.exists_slot_iff` — a slot leads to a stem exactly where the analysis has it
* `FieldTokens.count_slots` — a stem has as many slots as positions
* `FieldTokens.sum_count_slots` — the slots of all stems and the stop words make up the text
-/

namespace RankedRetrieval

namespace Text

/-- Terms stand at increasing positions within the length of the text. -/
structure Analysis.Numbered (a : Analysis) : Prop where
  /-- The positions increase. -/
  increasing : (a.terms.map Prod.snd).Pairwise (· < ·)
  /-- They lie within the text. -/
  lt_length : ∀ entry ∈ a.terms, entry.2 < a.length

theorem stemsFrom_numbered (position : Nat) (words : List String) :
    ((stemsFrom position words).map Prod.snd).Pairwise (· < ·) ∧
      ∀ entry ∈ stemsFrom position words,
        position ≤ entry.2 ∧ entry.2 < position + words.length := by
  induction words generalizing position with
  | nil => simp [stemsFrom]
  | cons word rest ih =>
    obtain ⟨increasing, within⟩ := ih (position + 1)
    have later : ∀ entry ∈ stemsFrom (position + 1) rest,
        position < entry.2 ∧ entry.2 < position + (word :: rest).length := by
      intro entry member
      have bounds := within entry member
      rw [List.length_cons]
      omega
    rw [stemsFrom]
    split
    · exact ⟨increasing, fun entry member =>
        ⟨Nat.le_of_lt (later entry member).1, (later entry member).2⟩⟩
    · rw [List.map_cons, List.pairwise_cons, List.forall_mem_cons]
      refine ⟨⟨List.forall_mem_map.2 fun entry member => (later entry member).1, increasing⟩,
        ⟨Nat.le_refl _, ?_⟩, fun entry member =>
          ⟨Nat.le_of_lt (later entry member).1, (later entry member).2⟩⟩
      exact Nat.lt_add_of_pos_right (Nat.succ_pos _)

/-- The terms of an analysis are numbered by their places among the words. -/
theorem numbered_analyze (text : String) : (analyze text).Numbered where
  increasing := (stemsFrom_numbered 0 (words text)).1
  lt_length entry member := by
    have bounds := ((stemsFrom_numbered 0 (words text)).2 entry member).2
    rwa [Nat.zero_add] at bounds

end Text

namespace FieldTokens

variable {a : Text.Analysis}

/-! ### Positions of a stem -/

theorem mem_positionsOf {stem : String} {position : Nat} :
    position ∈ positionsOf a stem ↔ (stem, position) ∈ a.terms := by
  simp [positionsOf]

theorem positionsOf_increasing (numbered : a.Numbered) (stem : String) :
    (positionsOf a stem).Pairwise (· < ·) :=
  numbered.increasing.sublist (List.filter_sublist.map Prod.snd)

theorem positionsOf_ne_nil {stem : String} (holds : stem ∈ (ofAnalysis a).stems) :
    positionsOf a stem ≠ [] := by
  obtain ⟨position, member⟩ := mem_stems.1 holds
  exact List.ne_nil_of_mem (mem_positionsOf.2 member)

/-! ### Slots -/

@[simp]
theorem length_slots (a : Text.Analysis) : (ofAnalysis a).slots.length = a.length := by
  simp [ofAnalysis]

/-- At a position stands the stem that the analysis has there. -/
theorem stemAt?_eq_some_iff (numbered : a.Numbered) {stem : String} {position : Nat} :
    stemAt? a.terms position = some stem ↔ (stem, position) ∈ a.terms := by
  have distinct : a.terms.Pairwise fun e e' => e.2 < e'.2 :=
    List.pairwise_map.1 numbered.increasing
  unfold stemAt?
  generalize a.terms = terms at distinct
  induction terms with
  | nil => simp
  | cons entry rest ih =>
    obtain ⟨before, rest_distinct⟩ := List.pairwise_cons.1 distinct
    obtain ⟨first, place⟩ := entry
    by_cases here : place = position
    · subst here
      have not_later : (stem, place) ∉ rest := fun member =>
        Nat.lt_irrefl place (before _ member)
      simp [not_later, eq_comm]
    · have later := ih rest_distinct
      rw [List.find?_cons_of_neg (by simpa using here)]
      simpa [here, Ne.symm here] using later

theorem getElem?_slots {position : Nat} {slot? : Option Nat} :
    (ofAnalysis a).slots[position]? = some slot? ↔
      position < a.length ∧
        (stemAt? a.terms position).bind (fun stem => (ofAnalysis a).stems.idxOf? stem) = slot? := by
  rw [List.getElem?_eq_some_iff]
  simp only [ofAnalysis, List.length_map, List.length_range, List.getElem_map,
    List.getElem_range, exists_prop]

theorem idxOf?_eq_some_iff {xs : List String} (nodup : xs.Nodup) {s : String} {i : Nat} :
    xs.idxOf? s = some i ↔ xs[i]? = some s := by
  induction xs generalizing i with
  | nil => simp
  | cons x xs ih =>
    obtain ⟨fresh, nodup⟩ := List.nodup_cons.1 nodup
    rw [List.idxOf?_cons]
    by_cases same : x = s
    · subst same
      cases i with
      | zero => simp
      | succ i =>
        have absent : xs[i]? ≠ some x := fun found => fresh (List.mem_of_getElem? found)
        simp [absent]
    · cases i with
      | zero => simp [same]
      | succ i => simp [same, ih nodup]

/-- A slot leads to a stem exactly where the analysis has the stem. -/
theorem exists_slot_iff (numbered : a.Numbered) {stem : String} {position : Nat} :
    (∃ slot, (ofAnalysis a).slots[position]? = some (some slot) ∧
        (ofAnalysis a).stems[slot]? = some stem) ↔ (stem, position) ∈ a.terms := by
  simp only [getElem?_slots, Option.bind_eq_some_iff, idxOf?_eq_some_iff (nodup_stems a),
    stemAt?_eq_some_iff numbered]
  constructor
  · rintro ⟨slot, ⟨-, other, member, found⟩, at_slot⟩
    rw [found] at at_slot
    rwa [← Option.some.inj at_slot]
  · intro member
    obtain ⟨slot, found⟩ := List.mem_iff_getElem?.1 (mem_stems.2 ⟨position, member⟩)
    exact ⟨slot, ⟨numbered.lt_length _ member, stem, member, found⟩, found⟩

/-- Every slot is the number of a stem. -/
theorem slot_lt {slot : Nat} (member : some slot ∈ (ofAnalysis a).slots) :
    slot < (ofAnalysis a).stems.length := by
  obtain ⟨position, found⟩ := List.mem_iff_getElem?.1 member
  obtain ⟨-, found⟩ := getElem?_slots.1 found
  obtain ⟨stem, -, index⟩ := Option.bind_eq_some_iff.1 found
  rw [idxOf?_eq_some_iff (nodup_stems a)] at index
  exact (List.getElem?_eq_some_iff.1 index).1

/-! ### Counting slots -/

/-- A stem has as many slots as positions. -/
theorem count_slots (numbered : a.Numbered) {stem : String} {slot : Nat}
    (at_slot : (ofAnalysis a).stems[slot]? = some stem) :
    (ofAnalysis a).slots.count (some slot) = (positionsOf a stem).length := by
  have holds (position : Nat) :
      ((stemAt? a.terms position).bind fun s => (ofAnalysis a).stems.idxOf? s) = some slot ↔
        position ∈ positionsOf a stem := by
    rw [mem_positionsOf, ← stemAt?_eq_some_iff numbered]
    simp only [Option.bind_eq_some_iff, idxOf?_eq_some_iff (nodup_stems a), at_slot,
      Option.some.injEq]
    constructor
    · rintro ⟨s, found, rfl⟩
      exact found
    · intro found
      exact ⟨stem, found, rfl⟩
  -- both lists are free of repetitions and hold the places of the stem
  have same : ((List.range a.length).filter fun position => position ∈ positionsOf a stem).Perm
      (positionsOf a stem) := by
    refine (List.perm_ext_iff_of_nodup (List.nodup_range.filter _)
      ((positionsOf_increasing numbered stem).imp Nat.ne_of_lt)).2 fun position => ?_
    rw [List.mem_filter, List.mem_range, decide_eq_true_eq]
    exact ⟨And.right, fun member => ⟨numbered.lt_length _ (mem_positionsOf.1 member), member⟩⟩
  rw [← same.length_eq, ← List.countP_eq_length_filter]
  simp only [ofAnalysis, List.count, List.countP_map]
  refine List.countP_congr fun position _ => ?_
  rw [Function.comp_apply, beq_iff_eq, decide_eq_true_eq]
  exact holds position

/-- A slot below the successor of a number is below the number or the number. -/
theorem countP_lt_succ (slots : List (Option Nat)) (n : Nat) :
    slots.countP (fun slot? => slot?.any (· < n + 1)) =
      slots.countP (fun slot? => slot?.any (· < n)) + slots.count (some n) := by
  have one (slot? : Option Nat) : (if slot?.any (· < n + 1) = true then 1 else 0) =
      (if slot?.any (· < n) = true then 1 else 0) + if (slot? == some n) = true then 1 else 0 := by
    cases slot? with
    | none => rfl
    | some slot =>
      simp only [Option.any_some, decide_eq_true_eq, beq_iff_eq, Option.some.injEq]
      split <;> split <;> split <;> omega
  induction slots with
  | nil => rfl
  | cons slot? slots ih =>
    rw [List.countP_cons, List.countP_cons, List.count_cons, ih, one slot?]
    omega

/-- The slots below a number and the empty ones make up all slots. -/
theorem sum_count_some {slots : List (Option Nat)} {n : Nat}
    (below : ∀ slot, some slot ∈ slots → slot < n) :
    ((List.range n).map fun slot => slots.count (some slot)).sum + slots.count none =
      slots.length := by
  have up_to (n : Nat) : ((List.range n).map fun slot => slots.count (some slot)).sum =
      slots.countP fun slot? => slot?.any (· < n) := by
    induction n with
    | zero => simp
    | succ n ih =>
      rw [List.range_succ, List.map_append, List.sum_append, ih, countP_lt_succ,
        List.map_singleton, List.sum_singleton]
  rw [up_to, List.count, List.length_eq_countP_add_countP fun slot? => slot?.any (· < n)]
  congr 1
  refine List.countP_congr fun slot? member => ?_
  cases slot? with
  | none => simp
  | some slot => simpa using below slot member

/-- The slots of all stems and the stop words make up the text. -/
theorem sum_count_slots (a : Text.Analysis) :
    ((List.range (ofAnalysis a).stems.length).map fun slot =>
        (ofAnalysis a).slots.count (some slot)).sum + (ofAnalysis a).slots.count none =
      a.length := by
  rw [sum_count_some fun slot member => slot_lt member, length_slots]

end FieldTokens

end RankedRetrieval
