import Mathlib.Algebra.GroupWithZero.Nat
import Mathlib.Data.Finset.Max
import Mathlib.Data.List.Forall2
import Mathlib.Data.List.Sort
import RankedRetrieval.Proofs.Positional.Proximity

/-!
# Windows of positions

What `window` reports, beside the choices of one position of each argument that lie within a span.

## Main Definitions

* `Merge.Fits` — a position of each list, all of them within a span
* `Merge.Passes` — a choice that lies before all positions of lists
* `Merge.Apart` — choices that share no position of the same list
* `Merge.Packing` — choices that fit a span, each apart from the others
* `Merge.exchange` — a choice whose first positions give way to those of another one

## Main Results

* `Merge.fits_exchange` — a choice that gives way fits as before, and ends no later
* `Merge.exists_packing_spans` — the spans that are reported are a packing
* `Merge.exists_packing_tail` — if the first positions fit, a packing needs only one of its
  choices for them
* `Merge.length_le_countP_spans` — no packing has more choices than there are spans
* `Merge.windowOccurrences_perm` — the order of the lists does not matter
* `Merge.window_packs` — what `window` reports of a document

## Design Notes

**Two steps, and neither of them loses a choice.**  If the first positions lie too far apart, the
least of them is too far from whatever is chosen of the list with the greatest one, so no choice
that fits uses it.  If they lie close together they are a choice that fits.  Of a packing one takes
the choice that ends first, and every other choice that uses a first position takes the position of
that one instead: it begins no earlier than before, and it ends no later because the other one ends
first.

**Counting below a bound.**  The choices of a packing that end before a bound are no more than the
spans that end before it, and the spans are themselves a packing.  So the number of spans that end
before a bound is known from the packings alone, and packings do not depend on the order of lists.
-/

namespace RankedRetrieval.Merge

/-! ### Choices -/

/-- The greatest of some positions. -/
def highest (choice : List Nat) : Nat := choice.max?.getD 0

/-- The least of some positions. -/
def lowest (choice : List Nat) : Nat := choice.min?.getD 0

/-- A position of each list, all of them within a span of `size` positions. -/
structure Fits (size : Nat) (lists : List (List Nat)) (choice : List Nat) : Prop where
  /-- There is a position of each list. -/
  chosen : List.Forall₂ (· ∈ ·) choice lists
  /-- The positions lie within the span. -/
  narrow : highest choice - lowest choice < size

/-- Positions at the beginnings of lists. -/
def Begins (heads : List Nat) (lists : List (List Nat)) : Prop :=
  List.Forall₂ (fun p l => ∃ later, l = p :: later) heads lists

/-- A choice that lies before all positions of lists. -/
def Passes (choice : List Nat) (lists : List (List Nat)) : Prop :=
  List.Forall₂ (fun x later => ∀ y ∈ later, x < y) choice lists

/-- Choices that share no position of the same list. -/
def Apart (choice other : List Nat) : Prop := List.Forall₂ (· ≠ ·) choice other

/-- Choices that fit a span and use no position of a list twice. -/
structure Packing (size : Nat) (lists choices : List (List Nat)) : Prop where
  /-- Each choice fits. -/
  fits : ∀ choice ∈ choices, Fits size lists choice
  /-- Each choice is apart from the others. -/
  apart : choices.Pairwise Apart

section Choices

variable {choice other first heads : List Nat} {lists : List (List Nat)}

theorem Apart.symm (apart : Apart choice other) : Apart other choice :=
  List.Forall₂.flip (apart.imp fun _ _ => Ne.symm)

/-- What is chosen of passed lists lies behind in every list. -/
theorem Passes.lt (passes : Passes choice lists) (chosen : List.Forall₂ (· ∈ ·) other lists) :
    List.Forall₂ (· < ·) choice other := by
  induction passes generalizing other with
  | nil =>
    cases chosen
    exact .nil
  | cons first _ ih =>
    cases chosen with
    | cons member chosen => exact .cons (first _ member) (ih chosen)

theorem highest_mem (nonempty : choice ≠ []) : highest choice ∈ choice := by
  rw [highest]
  cases found : choice.max? with
  | none => exact absurd (List.max?_eq_none_iff.1 found) nonempty
  | some high => exact List.max?_mem found

theorem lowest_mem (nonempty : choice ≠ []) : lowest choice ∈ choice := by
  rw [lowest]
  cases found : choice.min? with
  | none => exact absurd (List.min?_eq_none_iff.1 found) nonempty
  | some low => exact List.min?_mem found

theorem lowest_le {p : Nat} (member : p ∈ choice) : lowest choice ≤ p := by
  rw [lowest]
  cases found : choice.min? with
  | none =>
    rw [List.min?_eq_none_iff.1 found] at member
    simp at member
  | some low => exact (List.min?_eq_some_iff.1 found).2 p member

/-- A choice ends no later than another one that has a position behind each of its own. -/
theorem highest_le_of_exists (behind : ∀ x ∈ choice, ∃ y ∈ other, x ≤ y) :
    highest choice ≤ highest other := by
  rcases eq_or_ne choice [] with rfl | nonempty
  · exact Nat.zero_le _
  · obtain ⟨y, hy, le⟩ := behind _ (highest_mem nonempty)
    exact Nat.le_trans le (le_highest hy)

/-- A choice begins no earlier than another one that has a position before each of its own. -/
theorem lowest_le_of_exists (nonempty : choice ≠ [])
    (before : ∀ x ∈ choice, ∃ y ∈ other, y ≤ x) : lowest other ≤ lowest choice := by
  obtain ⟨y, hy, le⟩ := before _ (lowest_mem nonempty)
  exact Nat.le_trans (lowest_le hy) le

theorem ne_nil_of_chosen {β : Type} {R : Nat → β → Prop} {xs : List β} (nonempty : xs ≠ [])
    (chosen : List.Forall₂ R choice xs) : choice ≠ [] := by
  rintro rfl
  cases chosen
  exact nonempty rfl

/-! ### First positions -/

/-- The first positions stand at the beginnings of the lists. -/
theorem begins_of_heads? (found : heads? lists = some heads) : Begins heads lists := by
  induction lists generalizing heads with
  | nil =>
    obtain rfl : [] = heads := by simpa [heads?] using found
    exact .nil
  | cons l lists ih =>
    cases l with
    | nil => simp [heads?] at found
    | cons p later =>
      rw [heads?] at found
      obtain ⟨others, rest, rfl⟩ := Option.map_eq_some_iff.1 found
      exact .cons ⟨later, rfl⟩ (ih rest)

/-- Where some list has no first position, nothing can be chosen. -/
theorem not_chosen_of_exhausted (exhausted : heads? lists = none) :
    ¬ List.Forall₂ (· ∈ ·) choice lists := by
  intro chosen
  induction chosen with
  | nil => simp [heads?] at exhausted
  | @cons p l choice lists member _ ih =>
    cases l with
    | nil => simp at member
    | cons q later =>
      rw [heads?, Option.map_eq_none_iff] at exhausted
      exact ih exhausted

theorem chosen_heads (begins : Begins heads lists) : List.Forall₂ (· ∈ ·) heads lists := by
  refine List.Forall₂.imp ?_ begins
  rintro p l ⟨later, rfl⟩
  exact List.mem_cons_self

/-- No choice has an earlier position than the first one of a list. -/
theorem heads_le (begins : Begins heads lists) (increasing : ∀ l ∈ lists, l.Pairwise (· < ·))
    (chosen : List.Forall₂ (· ∈ ·) choice lists) : List.Forall₂ (· ≤ ·) heads choice := by
  induction begins generalizing choice with
  | nil =>
    cases chosen
    exact .nil
  | @cons p l heads lists head _ ih =>
    obtain ⟨later, rfl⟩ := head
    obtain ⟨first, others⟩ := List.forall_mem_cons.1 increasing
    cases chosen with
    | cons member chosen =>
      refine .cons ?_ (ih others chosen)
      rcases List.mem_cons.1 member with rfl | behind
      · exact Nat.le_refl _
      · exact Nat.le_of_lt ((List.pairwise_cons.1 first).1 _ behind)

/-- The first positions of increasing lists are passed by the others. -/
theorem passes_tail (begins : Begins heads lists) (increasing : ∀ l ∈ lists, l.Pairwise (· < ·)) :
    Passes heads (lists.map List.tail) := by
  induction begins with
  | nil => exact .nil
  | cons head _ ih =>
    obtain ⟨later, rfl⟩ := head
    obtain ⟨first, others⟩ := List.forall_mem_cons.1 increasing
    exact .cons (List.pairwise_cons.1 first).1 (ih others)

/-- What is chosen of what is left of lists is chosen of the lists. -/
theorem chosen_of_leftOf {left : List (List Nat)} (leftOf : LeftOf left lists)
    (chosen : List.Forall₂ (· ∈ ·) choice left) : List.Forall₂ (· ∈ ·) choice lists := by
  induction leftOf generalizing choice with
  | nil => exact chosen
  | cons suffix _ ih =>
    cases chosen with
    | cons member chosen => exact .cons (suffix.subset member) (ih chosen)

/-! ### Dropping the least position -/

/-- A choice without the least position is not affected when that is dropped. -/
theorem chosen_dropLow {low : Nat} (chosen : List.Forall₂ (· ∈ ·) choice lists)
    (unused : low ∉ choice) : List.Forall₂ (· ∈ ·) choice (dropLow low lists) := by
  induction chosen with
  | nil => exact .nil
  | @cons p l choice lists member chosen ih =>
    obtain ⟨other, others_unused⟩ := not_or.1 (List.mem_cons.not.1 unused)
    cases l with
    | nil => simp at member
    | cons q later =>
      rw [dropLow]
      split
      · rename_i same
        refine .cons ((List.mem_cons.1 member).resolve_left ?_) chosen
        rintro rfl
        exact other same.symm
      · exact .cons member (ih others_unused)

/-- Where the first positions lie too far apart, no choice that fits uses the least of them. -/
theorem lowest_not_mem {size : Nat} (begins : Begins heads lists)
    (increasing : ∀ l ∈ lists, l.Pairwise (· < ·))
    (wide : ¬ highest heads - lowest heads < size)
    (fits : Fits size lists choice) : lowest heads ∉ choice := by
  intro member
  have starts : lowest choice ≤ lowest heads := lowest_le member
  have ends : highest heads ≤ highest choice :=
    highest_le_of_exists fun _ hx => exists_of_forall₂ (heads_le begins increasing fits.chosen) hx
  have narrow := fits.narrow
  omega

end Choices

/-! ### Giving way -/

/-- A choice in which every first position gives way to the position of another choice. -/
def exchange : List Nat → List Nat → List Nat → List Nat
  | p :: heads, a :: first, b :: choice =>
    (if b = p then a else b) :: exchange heads first choice
  | _, _, _ => []

section Exchange

variable {heads first choice other : List Nat} {lists : List (List Nat)}

/-- What comes out uses no first position. -/
theorem chosen_exchange (begins : Begins heads lists)
    (first_chosen : List.Forall₂ (· ∈ ·) first lists)
    (chosen : List.Forall₂ (· ∈ ·) choice lists) (apart : Apart first choice) :
    List.Forall₂ (· ∈ ·) (exchange heads first choice) (lists.map List.tail) := by
  induction begins generalizing first choice with
  | nil =>
    cases first_chosen
    exact .nil
  | @cons p l heads lists head _ ih =>
    obtain ⟨later, rfl⟩ := head
    cases first_chosen with
    | @cons a _ first _ a_member first_chosen =>
      cases chosen with
      | @cons b _ choice _ b_member chosen =>
        cases apart with
        | cons differ apart =>
          refine .cons ?_ (ih first_chosen chosen apart)
          rw [List.tail_cons]
          split
          · rename_i same
            have a_behind : a ≠ p := fun at_head => differ (at_head.trans same.symm)
            exact (List.mem_cons.1 a_member).resolve_left a_behind
          · rename_i behind
            exact (List.mem_cons.1 b_member).resolve_left behind

/-- Choices that give way to the same one stay apart. -/
theorem apart_exchange (begins : Begins heads lists) (chosen : List.Forall₂ (· ∈ ·) choice lists)
    (apart : Apart choice other) (first_apart : Apart first choice)
    (first_apart_other : Apart first other) :
    Apart (exchange heads first choice) (exchange heads first other) := by
  induction begins generalizing first choice other with
  | nil =>
    cases chosen
    cases apart
    exact .nil
  | @cons p l heads lists _ _ ih =>
    cases chosen with
    | @cons b _ choice _ _ chosen =>
      cases apart with
      | @cons _ c _ other differ apart =>
        cases first_apart with
        | @cons a _ first _ first_differ first_apart =>
          cases first_apart_other with
          | cons first_differ_other first_apart_other =>
            refine .cons ?_ (ih chosen apart first_apart first_apart_other)
            -- at most one of the two has the first position
            by_cases here : b = p
            · have not_there : c ≠ p := fun there => differ (here.trans there.symm)
              rw [if_pos here, if_neg not_there]
              exact first_differ_other
            · rw [if_neg here]
              split
              · exact first_differ.symm
              · exact differ

/-- A choice that gives way only moves on. -/
theorem le_exchange (begins : Begins heads lists) (increasing : ∀ l ∈ lists, l.Pairwise (· < ·))
    (first_chosen : List.Forall₂ (· ∈ ·) first lists)
    (chosen : List.Forall₂ (· ∈ ·) choice lists) :
    List.Forall₂ (· ≤ ·) choice (exchange heads first choice) := by
  have least := heads_le begins increasing first_chosen
  induction begins generalizing first choice with
  | nil =>
    cases chosen
    cases first_chosen
    exact .nil
  | @cons p l heads lists _ _ ih =>
    cases first_chosen with
    | cons _ first_chosen =>
      cases chosen with
      | cons _ chosen =>
        cases least with
        | cons le least =>
          refine .cons ?_ (ih (List.forall_mem_cons.1 increasing).2 first_chosen chosen least)
          split
          · rename_i same
            exact same ▸ le
          · exact Nat.le_refl _

theorem mem_exchange {x : Nat} (member : x ∈ exchange heads first choice) :
    x ∈ first ∨ x ∈ choice := by
  fun_induction exchange heads first choice with
  | case1 p heads a first b choice ih =>
    rcases List.mem_cons.1 member with rfl | later
    · split
      · exact .inl List.mem_cons_self
      · exact .inr List.mem_cons_self
    · exact (ih later).imp (List.mem_cons_of_mem a) (List.mem_cons_of_mem b)
  | case2 => simp at member

/-- A choice that gives way to one that ends no later ends no later than before. -/
theorem highest_exchange_le (nonempty : exchange heads first choice ≠ [])
    (ends_first : highest first ≤ highest choice) :
    highest (exchange heads first choice) ≤ highest choice := by
  rcases mem_exchange (highest_mem nonempty) with of_first | own
  · exact Nat.le_trans (le_highest of_first) ends_first
  · exact le_highest own

end Exchange

/-! ### Packings -/

section Packings

variable {size bound : Nat} {heads first choice : List Nat}
  {lists others choices : List (List Nat)}

theorem Packing.perm (packing : Packing size lists choices) (perm : choices.Perm others) :
    Packing size lists others where
  fits choice member := packing.fits choice (perm.mem_iff.2 member)
  apart := perm.pairwise packing.apart fun apart => apart.symm

theorem Packing.sublist (packing : Packing size lists choices) (sub : others.Sublist choices) :
    Packing size lists others where
  fits choice member := packing.fits choice (sub.subset member)
  apart := packing.apart.sublist sub

/-- Some choice of a packing ends first. -/
theorem exists_first (nonempty : choices ≠ []) :
    ∃ first ∈ choices, ∀ choice ∈ choices, highest first ≤ highest choice := by
  obtain ⟨choice, rest, rfl⟩ := List.exists_cons_of_ne_nil nonempty
  obtain ⟨first, member, least⟩ :=
    (choice :: rest).toFinset.exists_min_image highest ⟨choice, by simp⟩
  exact ⟨first, List.mem_toFinset.1 member, fun other hother =>
    least other (List.mem_toFinset.2 hother)⟩

/-- A choice that gives way fits as it did before, and ends no later. -/
theorem fits_exchange (nonempty : lists ≠ []) (begins : Begins heads lists)
    (increasing : ∀ l ∈ lists, l.Pairwise (· < ·)) (first_chosen : List.Forall₂ (· ∈ ·) first lists)
    (fits : Fits size lists choice) (apart : Apart first choice)
    (ends_first : highest first ≤ highest choice) :
    Fits size (lists.map List.tail) (exchange heads first choice) ∧
      highest (exchange heads first choice) ≤ highest choice := by
  have chosen_tail := chosen_exchange begins first_chosen fits.chosen apart
  have some_position : exchange heads first choice ≠ [] :=
    ne_nil_of_chosen (by simpa using nonempty) chosen_tail
  have ends := highest_exchange_le some_position ends_first
  have moved := le_exchange begins increasing first_chosen fits.chosen
  have starts : lowest choice ≤ lowest (exchange heads first choice) :=
    lowest_le_of_exists some_position fun x hx => exists_of_forall₂ moved.flip hx
  have narrow := fits.narrow
  exact ⟨⟨chosen_tail, by omega⟩, ends⟩

/-- A packing needs only one of its choices for the first positions: all others can do without
them, and end no later than before. -/
theorem exists_packing_tail (nonempty : lists ≠ []) (begins : Begins heads lists)
    (increasing : ∀ l ∈ lists, l.Pairwise (· < ·)) (packing : Packing size lists choices)
    (some_choice : choices ≠ []) (below : ∀ choice ∈ choices, highest choice < bound) :
    highest heads < bound ∧ ∃ others, Packing size (lists.map List.tail) others ∧
      others.length + 1 = choices.length ∧ ∀ choice ∈ others, highest choice < bound := by
  obtain ⟨first, member, ends_first⟩ := exists_first some_choice
  obtain ⟨before, after, rfl⟩ := List.append_of_mem member
  obtain ⟨fits, apart⟩ := packing.perm List.perm_middle
  obtain ⟨first_fits, rest_fit⟩ := List.forall_mem_cons.1 fits
  obtain ⟨first_apart, rest_apart⟩ := List.pairwise_cons.1 apart
  have among {choice : List Nat} (hchoice : choice ∈ before ++ after) :
      choice ∈ before ++ first :: after :=
    List.perm_middle.mem_iff.2 (List.mem_cons_of_mem first hchoice)
  have given_way (choice : List Nat) (hchoice : choice ∈ before ++ after) :=
    fits_exchange nonempty begins increasing first_fits.chosen (rest_fit choice hchoice)
      (first_apart choice hchoice) (ends_first choice (among hchoice))
  refine ⟨?_, (before ++ after).map (exchange heads first), ⟨?_, ?_⟩, by simp; omega, ?_⟩
  · have least := heads_le begins increasing first_fits.chosen
    refine Nat.lt_of_le_of_lt ?_ (below first member)
    exact highest_le_of_exists fun _ hx => exists_of_forall₂ least hx
  · exact List.forall_mem_map.2 fun choice hchoice => (given_way choice hchoice).1
  · refine List.pairwise_map.2 (rest_apart.imp_of_mem fun {choice other} hchoice hother apart => ?_)
    exact apart_exchange begins (rest_fit choice hchoice).chosen apart
      (first_apart choice hchoice) (first_apart other hother)
  · exact List.forall_mem_map.2 fun choice hchoice =>
      Nat.lt_of_le_of_lt (given_way choice hchoice).2 (below choice (among hchoice))

end Packings

/-! ### Spans -/

section Spans

variable {size fuel bound low : Nat} {heads : List Nat} {lists others choices : List (List Nat)}

theorem sum_length_tail (begins : Begins heads lists) :
    ((lists.map List.tail).map List.length).sum + heads.length = (lists.map List.length).sum := by
  induction begins with
  | nil => rfl
  | cons head _ ih =>
    obtain ⟨later, rfl⟩ := head
    simp only [List.map_cons, List.sum_cons, List.tail_cons, List.length_cons] at ih ⊢
    omega

theorem sum_length_dropLow (begins : Begins heads lists) (member : low ∈ heads) :
    ((dropLow low lists).map List.length).sum + 1 = (lists.map List.length).sum := by
  induction begins with
  | nil => simp at member
  | @cons p l heads lists head _ ih =>
    obtain ⟨later, rfl⟩ := head
    rw [dropLow]
    split
    · simp only [List.map_cons, List.sum_cons, List.length_cons]
      omega
    · rename_i other
      have further := ih ((List.mem_cons.1 member).resolve_left fun same => other same.symm)
      simp only [List.map_cons, List.sum_cons]
      omega

theorem dropLow_ne_nil (nonempty : lists ≠ []) : dropLow low lists ≠ [] :=
  (leftOf_dropLow low lists).ne_nil nonempty

/-- One step either reports the first positions or drops the least of them. -/
theorem spans_succ (found : heads? lists = some heads) : spans size (fuel + 1) lists =
    if highest heads - lowest heads < size then
      highest heads :: spans size fuel (lists.map List.tail)
    else spans size fuel (dropLow (lowest heads) lists) := by
  rw [spans, found]
  rfl

theorem spans_of_exhausted (exhausted : heads? lists = none) : spans size fuel lists = [] := by
  cases fuel with
  | zero => rfl
  | succ fuel => rw [spans, exhausted]

/-- The spans that are reported are a packing, each of its choices behind the ones before in every
list. -/
theorem exists_packing_spans (size fuel : Nat) (nonempty : lists ≠ [])
    (increasing : ∀ l ∈ lists, l.Pairwise (· < ·)) :
    ∃ choices : List (List Nat), (∀ choice ∈ choices, Fits size lists choice) ∧
      choices.Pairwise (List.Forall₂ (· < ·)) ∧ choices.map highest = spans size fuel lists := by
  induction fuel generalizing lists with
  | zero => exact ⟨[], by simp, List.Pairwise.nil, rfl⟩
  | succ fuel ih =>
    cases found : heads? lists with
    | none => exact ⟨[], by simp, List.Pairwise.nil, (spans_of_exhausted found).symm⟩
    | some heads =>
      have begins := begins_of_heads? found
      have of_left {left : List (List Nat)} (leftOf : LeftOf left lists) {choices : List (List Nat)}
          (fits : ∀ choice ∈ choices, Fits size left choice) :
          ∀ choice ∈ choices, Fits size lists choice := fun choice hchoice =>
        ⟨chosen_of_leftOf leftOf (fits choice hchoice).chosen, (fits choice hchoice).narrow⟩
      rw [spans_succ found]
      split
      · rename_i narrow
        obtain ⟨choices, fits, ordered, ends⟩ :=
          ih (by simpa using nonempty) ((leftOf_tail lists).pairwise increasing)
        refine ⟨heads :: choices, ?_, ?_, by rw [List.map_cons, ends]⟩
        · exact List.forall_mem_cons.2
            ⟨⟨chosen_heads begins, narrow⟩, of_left (leftOf_tail lists) fits⟩
        · exact List.pairwise_cons.2 ⟨fun choice hchoice =>
            (passes_tail begins increasing).lt (fits choice hchoice).chosen, ordered⟩
      · obtain ⟨choices, fits, ordered, ends⟩ :=
          ih (dropLow_ne_nil nonempty) ((leftOf_dropLow _ lists).pairwise increasing)
        exact ⟨choices, of_left (leftOf_dropLow _ lists) fits, ordered, ends⟩

/-- A packing has no more choices that end before a bound than there are spans that do. -/
theorem length_le_countP_spans (nonempty : lists ≠ [])
    (increasing : ∀ l ∈ lists, l.Pairwise (· < ·)) (enough : (lists.map List.length).sum ≤ fuel)
    (packing : Packing size lists choices) (below : ∀ choice ∈ choices, highest choice < bound) :
    choices.length ≤ (spans size fuel lists).countP (· < bound) := by
  induction fuel generalizing lists choices with
  | zero =>
    -- lists without positions leave nothing to choose
    rcases choices with _ | ⟨choice, choices⟩
    · exact Nat.zero_le _
    · cases (packing.fits choice List.mem_cons_self).chosen with
      | nil => exact absurd rfl nonempty
      | @cons p l _ _ member _ =>
        have some_position := List.length_pos_of_mem member
        simp only [List.map_cons, List.sum_cons] at enough
        omega
  | succ fuel ih =>
    cases found : heads? lists with
    | none =>
      rcases choices with _ | ⟨choice, choices⟩
      · exact Nat.zero_le _
      · exact absurd (packing.fits choice List.mem_cons_self).chosen (not_chosen_of_exhausted found)
    | some heads =>
      have begins := begins_of_heads? found
      have some_head : heads ≠ [] := ne_nil_of_chosen nonempty begins
      rw [spans_succ found]
      split
      · rcases eq_or_ne choices [] with rfl | some_choice
        · exact Nat.zero_le _
        have used := sum_length_tail begins
        have head_count := List.length_pos_of_ne_nil some_head
        obtain ⟨ends, others, others_packing, count, others_below⟩ :=
          exists_packing_tail nonempty begins increasing packing some_choice below
        have further := ih (by simpa using nonempty) ((leftOf_tail lists).pairwise increasing)
          (by omega) others_packing others_below
        rw [List.countP_cons_of_pos (by simpa using ends)]
        omega
      · rename_i wide
        have used := sum_length_dropLow begins (lowest_mem some_head)
        refine ih (dropLow_ne_nil nonempty) ((leftOf_dropLow _ lists).pairwise increasing)
          (by omega) ⟨fun choice hchoice => ?_, packing.apart⟩ below
        have fits := packing.fits choice hchoice
        exact ⟨chosen_dropLow fits.chosen (lowest_not_mem begins increasing wide fits),
          fits.narrow⟩

end Spans

/-! ### Occurrences -/

section Occurrences

variable {size bound : Nat} {choice other : List Nat} {lists others choices : List (List Nat)}

theorem windowOccurrences_eq (size : Nat) (lists : List (List Nat)) :
    windowOccurrences size lists = spans size (lists.map List.length).sum lists := by
  have counted :
      lists.foldr (fun positions n => positions.length + n) 0 = (lists.map List.length).sum := by
    rw [List.sum_eq_foldr, List.foldr_map]
  rw [windowOccurrences, counted]

theorem exists_ordered (size : Nat) (nonempty : lists ≠ [])
    (increasing : ∀ l ∈ lists, l.Pairwise (· < ·)) :
    ∃ choices : List (List Nat), (∀ choice ∈ choices, Fits size lists choice) ∧
      choices.Pairwise (List.Forall₂ (· < ·)) ∧
        choices.map highest = windowOccurrences size lists := by
  rw [windowOccurrences_eq]
  exact exists_packing_spans size _ nonempty increasing

theorem exists_packing (size : Nat) (nonempty : lists ≠ [])
    (increasing : ∀ l ∈ lists, l.Pairwise (· < ·)) :
    ∃ choices, Packing size lists choices ∧ choices.map highest = windowOccurrences size lists := by
  obtain ⟨choices, fits, ordered, ends⟩ := exists_ordered size nonempty increasing
  have apart : choices.Pairwise Apart :=
    ordered.imp fun before => before.imp fun _ _ => Nat.ne_of_lt
  exact ⟨choices, ⟨fits, apart⟩, ends⟩

theorem length_le_countP (nonempty : lists ≠ []) (increasing : ∀ l ∈ lists, l.Pairwise (· < ·))
    (packing : Packing size lists choices) (below : ∀ choice ∈ choices, highest choice < bound) :
    choices.length ≤ (windowOccurrences size lists).countP (· < bound) := by
  rw [windowOccurrences_eq]
  exact length_le_countP_spans nonempty increasing (Nat.le_refl _) packing below

/-- A packing has no more choices than there are occurrences. -/
theorem length_le_length (nonempty : lists ≠ []) (increasing : ∀ l ∈ lists, l.Pairwise (· < ·))
    (packing : Packing size lists choices) :
    choices.length ≤ (windowOccurrences size lists).length := by
  have below : ∀ choice ∈ choices, highest choice < highest (choices.map highest) + 1 :=
    fun choice hchoice => Nat.lt_succ_of_le (le_highest (List.mem_map_of_mem hchoice))
  exact Nat.le_trans (length_le_countP nonempty increasing packing below) List.countP_le_length

/-- Occurrences are reported once each, in order. -/
theorem windowOccurrences_increasing (size : Nat) (nonempty : lists ≠ [])
    (increasing : ∀ l ∈ lists, l.Pairwise (· < ·)) :
    (windowOccurrences size lists).Pairwise (· < ·) := by
  obtain ⟨choices, fits, ordered, ends⟩ := exists_ordered size nonempty increasing
  rw [← ends]
  refine List.pairwise_map.2 (ordered.imp_of_mem fun {choice other} hchoice _ before => ?_)
  obtain ⟨x, hx, lt⟩ := exists_of_forall₂ before
    (highest_mem (ne_nil_of_chosen nonempty (fits choice hchoice).chosen))
  exact Nat.lt_of_lt_of_le lt (le_highest hx)

/-! ### Lists in another order -/

theorem highest_perm (perm : choice.Perm other) : highest choice = highest other :=
  Nat.le_antisymm (highest_le_of_exists fun x hx => ⟨x, perm.mem_iff.1 hx, Nat.le_refl x⟩)
    (highest_le_of_exists fun x hx => ⟨x, perm.mem_iff.2 hx, Nat.le_refl x⟩)

theorem lowest_perm (perm : choice.Perm other) : lowest choice = lowest other := by
  rcases eq_or_ne choice [] with rfl | nonempty
  · rw [perm.nil_eq]
  · have other_nonempty : other ≠ [] := fun empty => nonempty (empty ▸ perm).eq_nil
    exact Nat.le_antisymm
      (lowest_le_of_exists other_nonempty fun x hx => ⟨x, perm.mem_iff.2 hx, Nat.le_refl x⟩)
      (lowest_le_of_exists nonempty fun x hx => ⟨x, perm.mem_iff.1 hx, Nat.le_refl x⟩)

/-- The rearrangement of a choice that leaves its first position where it is. -/
def keepFirst (arrange : List Nat → List Nat) : List Nat → List Nat
  | [] => []
  | p :: choice => p :: arrange choice

/-- The rearrangement of a choice that exchanges its first two positions. -/
def swapFirst : List Nat → List Nat
  | p :: q :: choice => q :: p :: choice
  | choice => choice

/-- Lists in another order have the same choices, all of them put into that order in one way. -/
theorem exists_arrangement (perm : lists.Perm others) : ∃ arrange : List Nat → List Nat,
    (∀ choice, List.Forall₂ (· ∈ ·) choice lists →
      (arrange choice).Perm choice ∧ List.Forall₂ (· ∈ ·) (arrange choice) others) ∧
    ∀ choice other, Apart choice other → Apart (arrange choice) (arrange other) := by
  induction perm with
  | nil => exact ⟨id, fun choice chosen => ⟨.refl choice, chosen⟩, fun _ _ apart => apart⟩
  | cons l _ ih =>
    obtain ⟨arrange, chosen_arrange, apart_arrange⟩ := ih
    refine ⟨keepFirst arrange, ?_, ?_⟩
    · rintro _ (_ | ⟨member, chosen⟩)
      obtain ⟨perm, moved⟩ := chosen_arrange _ chosen
      exact ⟨perm.cons _, .cons member moved⟩
    · rintro _ _ (_ | ⟨differ, apart⟩)
      · exact .nil
      · exact .cons differ (apart_arrange _ _ apart)
  | swap l m _ =>
    refine ⟨swapFirst, ?_, ?_⟩
    · rintro _ (_ | ⟨first, _ | ⟨second, chosen⟩⟩)
      exact ⟨.swap _ _ _, .cons second (.cons first chosen)⟩
    · rintro _ _ (_ | ⟨first, _ | ⟨second, apart⟩⟩)
      · exact .nil
      · exact .cons first .nil
      · exact .cons second (.cons first apart)
  | trans _ _ ih ih' =>
    obtain ⟨arrange, chosen_arrange, apart_arrange⟩ := ih
    obtain ⟨arrange', chosen_arrange', apart_arrange'⟩ := ih'
    refine ⟨arrange' ∘ arrange, fun choice chosen => ?_, fun choice other apart =>
      apart_arrange' _ _ (apart_arrange choice other apart)⟩
    obtain ⟨perm, moved⟩ := chosen_arrange choice chosen
    obtain ⟨perm', moved'⟩ := chosen_arrange' _ moved
    exact ⟨perm'.trans perm, moved'⟩

/-- A packing of lists is one of the lists in another order. -/
theorem Packing.arrange (packing : Packing size lists choices) (perm : lists.Perm others) :
    ∃ arranged, Packing size others arranged ∧ arranged.map highest = choices.map highest := by
  obtain ⟨arrange, chosen_arrange, apart_arrange⟩ := exists_arrangement perm
  refine ⟨choices.map arrange, ⟨List.forall_mem_map.2 fun choice hchoice => ?_, ?_⟩, ?_⟩
  · obtain ⟨perm, moved⟩ := chosen_arrange choice (packing.fits choice hchoice).chosen
    refine ⟨moved, ?_⟩
    rw [highest_perm perm, lowest_perm perm]
    exact (packing.fits choice hchoice).narrow
  · exact List.pairwise_map.2 (packing.apart.imp fun {choice other} apart =>
      apart_arrange choice other apart)
  · rw [List.map_map]
    exact List.map_congr_left fun choice hchoice =>
      highest_perm (chosen_arrange choice (packing.fits choice hchoice).chosen).1

/-- As many occurrences end before a bound when the lists are put in another order. -/
theorem countP_le_of_perm (nonempty : lists ≠ []) (increasing : ∀ l ∈ lists, l.Pairwise (· < ·))
    (perm : lists.Perm others) (bound : Nat) :
    (windowOccurrences size lists).countP (· < bound) ≤
      (windowOccurrences size others).countP (· < bound) := by
  obtain ⟨choices, packing, ends⟩ := exists_packing size nonempty increasing
  have part : (choices.filter fun choice => highest choice < bound).Sublist choices :=
    List.filter_sublist
  obtain ⟨arranged, arranged_packing, same_ends⟩ := (packing.sublist part).arrange perm
  have below : ∀ choice ∈ arranged, highest choice < bound := by
    intro choice hchoice
    have member := List.mem_map_of_mem (f := highest) hchoice
    rw [same_ends] at member
    obtain ⟨own, hown, same⟩ := List.mem_map.1 member
    rw [← same]
    simpa using (List.mem_filter.1 hown).2
  have count : arranged.length = (windowOccurrences size lists).countP (· < bound) := by
    rw [← ends, List.countP_map, ← List.length_map highest, same_ends, List.length_map,
      List.countP_eq_length_filter]
    rfl
  rw [← count]
  refine length_le_countP (fun empty => nonempty (empty ▸ perm).eq_nil) ?_ arranged_packing below
  exact fun l hl => increasing l (perm.mem_iff.2 hl)

theorem count_add_countP (xs : List Nat) (x : Nat) :
    xs.count x + xs.countP (· < x) = xs.countP (· < x + 1) := by
  induction xs with
  | nil => rfl
  | cons y xs ih =>
    simp only [List.count_cons, List.countP_cons, beq_iff_eq, decide_eq_true_eq]
    split <;> split <;> split <;> omega

/-- The order of the lists does not matter. -/
theorem windowOccurrences_perm (size : Nat) (nonempty : lists ≠ [])
    (increasing : ∀ l ∈ lists, l.Pairwise (· < ·)) (perm : lists.Perm others) :
    windowOccurrences size others = windowOccurrences size lists := by
  have others_nonempty : others ≠ [] := fun empty => nonempty (empty ▸ perm).eq_nil
  have others_increasing : ∀ l ∈ others, l.Pairwise (· < ·) :=
    fun l hl => increasing l (perm.mem_iff.2 hl)
  have same_counts (bound : Nat) : (windowOccurrences size others).countP (· < bound) =
      (windowOccurrences size lists).countP (· < bound) :=
    Nat.le_antisymm (countP_le_of_perm others_nonempty others_increasing perm.symm bound)
      (countP_le_of_perm nonempty increasing perm bound)
  refine (windowOccurrences_increasing size others_nonempty others_increasing).eq_of_mem_iff
    (windowOccurrences_increasing size nonempty increasing) fun x => ?_
  have counts :
      (windowOccurrences size others).count x = (windowOccurrences size lists).count x := by
    have before := count_add_countP (windowOccurrences size others) x
    have after := count_add_countP (windowOccurrences size lists) x
    rw [same_counts, same_counts] at before
    omega
  rw [← List.count_pos_iff, counts, List.count_pos_iff]

end Occurrences

/-! ### Reported windows -/

section Lists

variable {lists : List InvertedList}

theorem positionLists_increasing (wellFormed : ∀ l ∈ lists, l.WellFormed) (doc : DocId) :
    ∀ positions ∈ positionLists doc lists, positions.Pairwise (· < ·) :=
  List.forall_mem_map.2 fun l hl => increasing_positionsIn (wellFormed l hl) doc

/-- A list of which a position can be chosen holds the document. -/
theorem posting?_isSome_of_chosen {doc : DocId} {choice : List Nat}
    (chosen : List.Forall₂ (· ∈ ·) choice (positionLists doc lists)) :
    ∀ l ∈ lists, (l.posting? doc).isSome := by
  intro l hl
  obtain ⟨x, -, member⟩ := exists_of_forall₂ chosen.flip (List.mem_map_of_mem hl)
  exact posting?_isSome_of_positionsIn (List.ne_nil_of_mem member)

/-- Postings in increasing order of documents are determined by their members. -/
theorem increasing_eq_of_mem_iff {ps qs : List Posting} (increasing : Increasing ps)
    (others_increasing : Increasing qs) (same : ∀ p, p ∈ ps ↔ p ∈ qs) : ps = qs := by
  have antisymm : Std.Antisymm fun p q : Posting => p.doc < q.doc :=
    ⟨fun _ _ before after => absurd before (Nat.lt_asymm after)⟩
  have irrefl : Std.Irrefl fun p q : Posting => p.doc < q.doc := ⟨fun p => Nat.lt_irrefl p.doc⟩
  exact List.Pairwise.eq_of_mem_iff increasing others_increasing same

/-- Of some lists in another order the same postings are reported. -/
theorem window_perm {others : List InvertedList} (nonempty : lists ≠ [])
    (wellFormed : ∀ l ∈ lists, l.WellFormed) (size : Nat) (perm : lists.Perm others) :
    window size others = window size lists := by
  have others_nonempty : others ≠ [] := fun empty => nonempty (empty ▸ perm).eq_nil
  have increasing : ∀ l ∈ lists, Increasing l.postings := fun l hl => (wellFormed l hl).increasing
  have others_increasing : ∀ l ∈ others, Increasing l.postings :=
    fun l hl => increasing l (perm.mem_iff.2 hl)
  have ordered {ls : List InvertedList} (increasing : ∀ l ∈ ls, Increasing l.postings) :
      Increasing (window size ls) :=
    common_increasing _ fun l hl => (increasing l hl).ordered
  refine increasing_eq_of_mem_iff (ordered others_increasing) (ordered increasing) fun p => ?_
  have some_list : positionLists p.doc lists ≠ [] := by simpa [positionLists] using nonempty
  have same_lists : (positionLists p.doc lists).Perm (positionLists p.doc others) := perm.map _
  have same_positions := windowOccurrences_perm size some_list
    (positionLists_increasing wellFormed p.doc) same_lists
  rw [window, window, mem_common_iff others_nonempty others_increasing,
    mem_common_iff nonempty increasing]
  refine and_congr (forall_congr' fun l => by rw [perm.mem_iff]) (and_congr_left fun _ => ?_)
  rw [positionLists, positionLists] at same_positions
  rw [same_positions]

/-- `window` reports the documents that have a choice within the span.  Of each of them it reports
the ends of a packing, in order, and no packing has more choices.  The order of the lists does not
matter. -/
theorem window_packs (nonempty : lists ≠ []) (wellFormed : ∀ l ∈ lists, l.WellFormed) (size : Nat) :
    (∀ doc, Reports (window size lists) doc ↔
      ∃ choice, Fits size (positionLists doc lists) choice) ∧
    (∀ p ∈ window size lists,
      (∃ choices, Packing size (positionLists p.doc lists) choices ∧
        choices.map highest = p.positions) ∧
      (∀ choices, Packing size (positionLists p.doc lists) choices →
        choices.length ≤ p.positions.length) ∧
      p.positions.Pairwise (· < ·)) ∧
    ∀ others, lists.Perm others → window size others = window size lists := by
  have some_list (doc : DocId) : positionLists doc lists ≠ [] := by
    simpa [positionLists] using nonempty
  have increasing := positionLists_increasing wellFormed
  refine ⟨fun doc => ?exact, fun p reported => ?packing, fun others perm =>
    window_perm nonempty wellFormed size perm⟩
  case exact =>
    rw [window, reports_common_iff nonempty wellFormed]
    obtain ⟨choices, packing, ends⟩ := exists_packing size (some_list doc) (increasing doc)
    constructor
    · rintro ⟨-, found⟩
      rw [← ends, ne_eq, List.map_eq_nil_iff] at found
      obtain ⟨choice, hchoice⟩ := List.exists_mem_of_ne_nil choices found
      exact ⟨choice, packing.fits choice hchoice⟩
    · rintro ⟨choice, fits⟩
      have single : Packing size (positionLists doc lists) [choice] :=
        ⟨List.forall_mem_singleton.2 fits, List.pairwise_singleton _ _⟩
      have some_occurrence := length_le_length (some_list doc) (increasing doc) single
      exact ⟨posting?_isSome_of_chosen fits.chosen, List.ne_nil_of_length_pos some_occurrence⟩
  case packing =>
    obtain ⟨-, positions_eq, -⟩ :=
      (mem_common_iff nonempty fun l hl => (wellFormed l hl).increasing).1 reported
    rw [positions_eq]
    exact ⟨exists_packing size (some_list p.doc) (increasing p.doc),
      fun choices packing => length_le_length (some_list p.doc) (increasing p.doc) packing,
      windowOccurrences_increasing size (some_list p.doc) (increasing p.doc)⟩

/-- Three arguments with two windows, in one of them in another order: no third choice fits. -/
theorem window_packs_three :
    let lists := [ofPositions [0, 5], ofPositions [1, 7], ofPositions [2, 6]]
    lists ≠ [] ∧ (∀ l ∈ lists, l.WellFormed) ∧ window 3 lists = [⟨0, [2, 7]⟩] ∧
      (∃ choices, Packing 3 (positionLists 0 lists) choices ∧ choices.map highest = [2, 7]) ∧
      (∀ choices, Packing 3 (positionLists 0 lists) choices → choices.length ≤ 2) ∧
      window 3 lists.reverse = [⟨0, [2, 7]⟩] := by
  intro lists
  have nonempty : lists ≠ [] := by simp [lists]
  have wellFormed : ∀ l ∈ lists, l.WellFormed := by simp [lists, wellFormed_ofPositions]
  have computed : window 3 lists = [⟨0, [2, 7]⟩] := by decide +kernel
  obtain ⟨-, packed, reordered⟩ := window_packs nonempty wellFormed 3
  obtain ⟨packing, most, -⟩ := packed ⟨0, [2, 7]⟩ (computed ▸ List.mem_singleton_self _)
  exact ⟨nonempty, wellFormed, computed, packing, most,
    (reordered lists.reverse lists.reverse_perm.symm).trans computed⟩

end Lists

end RankedRetrieval.Merge
