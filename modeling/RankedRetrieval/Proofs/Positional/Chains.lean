import Mathlib.Data.Nat.PSub
import RankedRetrieval.Proofs.Positional.Windows

/-!
# Chains that use positions up

What `near` reports of a document, beside the chains of positions that end there.

## Main Definitions

* `Merge.ChainTo` — a chain of close positions, one of each list, and where it ends
* `Merge.nearChecked` — `near` with distances that exist only between a position and a later one

## Main Results

* `Merge.chainTo_of_extend` — an extension that succeeds is a chain, and what it leaves lies behind
  the positions of the chain
* `Merge.exists_chains` — the chains of successive anchors lie behind one another in every list
* `Merge.nearOccurrencesChecked_eq`, `Merge.intersectChecked_eq` — no distance is missing in a
  document, nor in a whole run
* `Merge.near_sound` — what `near` reports

## Design Notes

**Used positions are passed.**  An extension leaves of each list what lies behind the position that
it took there, and the next anchor starts with what is left.  An attempt that fails also leaves
ends of the lists, so it cannot bring a position back.

**Distances are natural numbers.**  `extend` asks for the distance from one position to another,
which would be meaningless if the second one stood before the first.  `nearChecked` is the same run
in which such a distance does not exist and the whole run comes to nothing.
-/

namespace RankedRetrieval.Merge

/-! ### Chains -/

/-- A chain of positions through lists and the position that it ends in. -/
structure ChainTo (distance : Nat) (lists : List (List Nat)) (chain : List Nat) (final : Nat) :
    Prop where
  /-- There is a position of each list. -/
  chosen : List.Forall₂ (· ∈ ·) chain lists
  /-- Each position is greater than the one before, by at most the distance. -/
  close : chain.IsChain fun last next => last < next ∧ next ≤ last + distance
  /-- The last position is the end. -/
  ends : chain.getLast? = some final

section Positions

variable {distance last final anchor : Nat} {anchors later ends chain other : List Nat}
  {lists others left found : List (List Nat)}

/-- A chain through what is left of lists is one through the lists. -/
theorem ChainTo.of_leftOf (leftOf : LeftOf left lists)
    (through : ChainTo distance left chain final) : ChainTo distance lists chain final :=
  ⟨chosen_of_leftOf leftOf through.chosen, through.close, through.ends⟩

/-- An extension that succeeds is a chain.  What it leaves of the lists lies behind the chain. -/
theorem chainTo_of_extend (ascending : ∀ l ∈ lists, l.Pairwise (· ≤ ·))
    (extended : extend distance last lists = some (some final, left)) :
    ∃ steps, ChainTo distance ([last] :: lists) (last :: steps) final ∧ Passes steps left := by
  induction lists generalizing last left with
  | nil =>
    obtain ⟨rfl, rfl⟩ : last = final ∧ [] = left := by simpa [extend] using extended
    exact ⟨[], ⟨.cons (List.mem_singleton_self _) .nil, .singleton _, rfl⟩, .nil⟩
  | cons positions others ih =>
    obtain ⟨first, further⟩ := List.forall_mem_cons.1 ascending
    rw [extend] at extended
    split at extended
    · simp at extended
    · rename_i now later skipped
      obtain ⟨member, after, -⟩ := nearest_of_skipPassed first skipped
      have suffix := Cursor.skipPassed_suffix (· ≤ last) positions
      rw [skipped] at suffix
      split at extended
      · simp at extended
      · rename_i close
        obtain ⟨⟨reached, rest⟩, next, same⟩ := Option.map_eq_some_iff.1 extended
        obtain ⟨rfl, rfl⟩ := Prod.mk.inj same
        obtain ⟨steps, ⟨chosen, close_steps, ends⟩, behind⟩ := ih further next
        refine ⟨now :: steps, ⟨?_, ?_, by rwa [List.getLast?_cons_cons]⟩, .cons ?_ behind⟩
        · exact .cons (List.mem_singleton_self _) (.cons member (List.forall₂_cons.1 chosen).2)
        · exact List.isChain_cons_cons.2 ⟨⟨after, by omega⟩, close_steps⟩
        · intro y hy
          exact ((mem_skipPassed (first.sublist suffix.sublist)).1 hy).2

/-- The ends of the chains of successive anchors have chains that end there, each of them behind
the ones before in every list. -/
theorem exists_chains (anchored : anchors.Pairwise (· < ·))
    (ascending : ∀ l ∈ others, l.Pairwise (· ≤ ·)) :
    ∃ found, List.Forall₂ (ChainTo distance (anchors :: others)) found
        (chains distance anchors others) ∧
      found.Pairwise (List.Forall₂ (· < ·)) := by
  induction anchors generalizing others with
  | nil => exact ⟨[], .nil, .nil⟩
  | cons anchor anchors ih =>
    obtain ⟨least, anchored⟩ := List.pairwise_cons.1 anchored
    have rest : anchors <:+ anchor :: anchors := List.suffix_cons anchor anchors
    rw [chains]
    split
    · exact ⟨[], .nil, .nil⟩
    · -- the chain of the anchor, then those through what it leaves
      rename_i final left extended
      have leftOf := (leadsOn_of_extend ascending extended).1
      obtain ⟨steps, through, behind⟩ := chainTo_of_extend ascending extended
      obtain ⟨found, chained, ordered⟩ := ih anchored (leftOf.pairwise ascending)
      have passed : Passes (anchor :: steps) (anchors :: left) := .cons least behind
      refine ⟨(anchor :: steps) :: found, .cons ?_ ?_, List.pairwise_cons.2 ⟨?_, ordered⟩⟩
      · exact ⟨.cons List.mem_cons_self (List.forall₂_cons.1 through.chosen).2, through.close,
          through.ends⟩
      · exact chained.imp fun _ _ through => through.of_leftOf (.cons rest leftOf)
      · intro chain hchain
        obtain ⟨_, -, through⟩ := exists_of_forall₂ chained hchain
        exact passed.lt through.chosen
    · -- an attempt that fails leaves ends of the lists
      rename_i left extended
      have leftOf := (leadsOn_of_extend ascending extended).1
      obtain ⟨found, chained, ordered⟩ := ih anchored (leftOf.pairwise ascending)
      exact ⟨found, chained.imp fun _ _ through => through.of_leftOf (.cons rest leftOf), ordered⟩

theorem exists_chains_near (distance : Nat) (increasing : ∀ l ∈ lists, l.Pairwise (· < ·)) :
    ∃ found, List.Forall₂ (ChainTo distance lists) found (nearOccurrences distance lists) ∧
      found.Pairwise (List.Forall₂ (· < ·)) := by
  cases lists with
  | nil => exact ⟨[], .nil, .nil⟩
  | cons anchors others =>
    obtain ⟨anchored, rest⟩ := List.forall_mem_cons.1 increasing
    exact exists_chains anchored fun l hl => (rest l hl).imp Nat.le_of_lt

/-- Of two chains the one that lies behind the other in every list also ends behind it. -/
theorem getLast_lt_of_forall₂ {x y : Nat} (before : List.Forall₂ (· < ·) chain other)
    (ends : chain.getLast? = some x) (other_ends : other.getLast? = some y) : x < y := by
  induction before with
  | nil => simp at ends
  | @cons a b chain other lt before ih =>
    cases before with
    | nil =>
      obtain rfl : a = x := by simpa using ends
      obtain rfl : b = y := by simpa using other_ends
      exact lt
    | cons lt' before =>
      rw [List.getLast?_cons_cons] at ends other_ends
      exact ih ends other_ends

/-- Chains that lie behind one another end behind one another. -/
theorem ends_increasing (chained : List.Forall₂ (ChainTo distance lists) found ends)
    (ordered : found.Pairwise (List.Forall₂ (· < ·))) : ends.Pairwise (· < ·) := by
  induction chained with
  | nil => exact .nil
  | cons through chained ih =>
    obtain ⟨before, ordered⟩ := List.pairwise_cons.1 ordered
    refine List.pairwise_cons.2 ⟨fun final hfinal => ?_, ih ordered⟩
    obtain ⟨chain, hchain, other_through⟩ := exists_of_forall₂ chained.flip hfinal
    exact getLast_lt_of_forall₂ (before chain hchain) through.ends other_through.ends

end Positions

/-! ### Distances that exist -/

/-- `extend`, if every distance that is asked for exists. -/
def extendChecked (distance last : Nat) :
    List (List Nat) → Option (Option (Option Nat × List (List Nat)))
  | [] => some (some (some last, []))
  | positions :: others =>
    match Cursor.skipPassed (· ≤ last) positions with
    | [] => some none
    | now :: later =>
      (Nat.psub now last).bind fun gap =>
        if distance < gap then some (some (none, (now :: later) :: others))
        else
          (extendChecked distance now others).map fun result => result.map fun extended =>
            (extended.1, Cursor.skipPassed (· ≤ now) (now :: later) :: extended.2)

/-- `chains`, if every distance that is asked for exists. -/
def chainsChecked (distance : Nat) : List Nat → List (List Nat) → Option (List Nat)
  | [], _ => some []
  | anchor :: anchors, others =>
    (extendChecked distance anchor others).bind fun
      | none => some []
      | some (some last, left) => (chainsChecked distance anchors left).map fun ends => last :: ends
      | some (none, left) => chainsChecked distance anchors left

/-- `nearOccurrences`, if every distance that is asked for exists. -/
def nearOccurrencesChecked (distance : Nat) : List (List Nat) → Option (List Nat)
  | [] => some []
  | anchors :: others => chainsChecked distance anchors others

/-- `intersect` with occurrences that may not exist. -/
def intersectChecked (occurrences : List (List Nat) → Option (List Nat)) :
    Nat → List Cursor → Option (List Posting)
  | 0, _ => some []
  | fuel + 1, cs =>
    match Cursor.align cs with
    | none => some []
    | some (doc, aligned) =>
      (occurrences (aligned.map Cursor.positions)).bind fun found =>
        (intersectChecked occurrences fuel (leaveFirst doc aligned)).map fun later =>
          if found.isEmpty then later else ⟨doc, found⟩ :: later

/-- `near`, if every distance that is asked for exists. -/
def nearChecked (distance : Nat) (lists : List InvertedList) : Option (List Posting) :=
  let cs := lists.map Cursor.start
  intersectChecked (nearOccurrencesChecked distance) (Cursor.totalRemaining cs) cs

section Checked

variable {distance last : Nat} {anchors : List Nat} {lists others : List (List Nat)}

/-- Positions that have been passed are never asked for a distance. -/
theorem extendChecked_eq (ascending : ∀ l ∈ lists, l.Pairwise (· ≤ ·)) :
    extendChecked distance last lists = some (extend distance last lists) := by
  induction lists generalizing last with
  | nil => rfl
  | cons positions others ih =>
    obtain ⟨first, further⟩ := List.forall_mem_cons.1 ascending
    rw [extendChecked, extend]
    cases skipped : Cursor.skipPassed (· ≤ last) positions with
    | nil => rfl
    | cons now later =>
      obtain ⟨-, after, -⟩ := nearest_of_skipPassed first skipped
      dsimp only
      rw [Nat.psub_eq_sub (Nat.le_of_lt after), Option.bind_some]
      split
      · rfl
      · rw [ih further]
        rfl

theorem chainsChecked_eq (ascending : ∀ l ∈ others, l.Pairwise (· ≤ ·)) :
    chainsChecked distance anchors others = some (chains distance anchors others) := by
  induction anchors generalizing others with
  | nil => rfl
  | cons anchor anchors ih =>
    rw [chainsChecked, chains, extendChecked_eq ascending, Option.bind_some]
    cases extended : extend distance anchor others with
    | none => rfl
    | some result =>
      obtain ⟨reached, left⟩ := result
      have left_ascending := (leadsOn_of_extend ascending extended).1.pairwise ascending
      cases reached with
      | none => exact ih left_ascending
      | some final => exact congrArg (Option.map _) (ih left_ascending)

/-- In ascending lists every distance exists. -/
theorem nearOccurrencesChecked_eq (ascending : ∀ l ∈ lists, l.Pairwise (· ≤ ·)) :
    nearOccurrencesChecked distance lists = some (nearOccurrences distance lists) := by
  cases lists with
  | nil => rfl
  | cons anchors others => exact chainsChecked_eq (List.forall_mem_cons.1 ascending).2

/-- A cursor over ordered postings with ascending positions, in the current posting as in those
ahead. -/
structure Ascends (c : Cursor) : Prop where
  /-- The documents ahead never decrease. -/
  ordered : Ordered c.rest
  /-- The positions of the postings ahead ascend. -/
  ahead : ∀ p ∈ c.rest, p.positions.Pairwise (· ≤ ·)
  /-- The positions of the current posting that have not been passed ascend. -/
  here : c.positions.Pairwise (· ≤ ·)

theorem ascending_firstPositions {ps : List Posting}
    (ahead : ∀ p ∈ ps, p.positions.Pairwise (· ≤ ·)) :
    (Cursor.firstPositions ps).Pairwise (· ≤ ·) := by
  cases ps with
  | nil => exact .nil
  | cons p ps => exact ahead p List.mem_cons_self

theorem ascends_start {l : InvertedList} (wellFormed : l.WellFormed) :
    Ascends (Cursor.start l) := by
  have ahead : ∀ p ∈ l.postings, p.positions.Pairwise (· ≤ ·) :=
    fun p hp => (wellFormed.ascending p hp).imp Nat.le_of_lt
  exact ⟨wellFormed.increasing.ordered, ahead, ascending_firstPositions ahead⟩

theorem kept_ascends : Cursor.Kept Ascends := by
  intro c d ascends
  have suffix := Cursor.rest_advanceTo_suffix ascends.ordered d
  have ahead : ∀ p ∈ (c.advanceTo d).rest, p.positions.Pairwise (· ≤ ·) :=
    fun p hp => ascends.ahead p (suffix.subset hp)
  refine ⟨Cursor.ordered_advanceTo ascends.ordered d, ahead, ?_⟩
  unfold Cursor.advanceTo Cursor.advanceWhile at ahead ⊢
  dsimp only at ahead ⊢
  split
  · rename_i moved
    rw [if_pos moved] at ahead
    exact ascending_firstPositions ahead
  · exact ascends.here

/-- Occurrences that exist of ascending positions exist in a whole run. -/
theorem intersectChecked_eq {occurrences : List (List Nat) → List Nat}
    {checked : List (List Nat) → Option (List Nat)}
    (exist : ∀ lists : List (List Nat), (∀ l ∈ lists, l.Pairwise (· ≤ ·)) →
      checked lists = some (occurrences lists))
    (fuel : Nat) {cs : List Cursor} (ascends : ∀ c ∈ cs, Ascends c) :
    intersectChecked checked fuel cs = some (intersect occurrences fuel cs) := by
  induction fuel generalizing cs with
  | zero => rfl
  | succ fuel ih =>
    cases cs with
    | nil => rfl
    | cons c cs =>
      rw [intersectChecked, intersect]
      cases aligned : Cursor.align (c :: cs) with
      | none => rfl
      | some result =>
        obtain ⟨doc, moved⟩ := result
        obtain ⟨-, all_at⟩ :=
          Cursor.align_spec kept_ascends (fun _ ascends => ascends.ordered) ascends aligned
        have moved_ascend : ∀ m ∈ moved, Ascends m := fun m hm => (all_at m hm).1
        dsimp only
        rw [exist _ (List.forall_mem_map.2 fun m hm => (moved_ascend m hm).here),
          ih (leaveFirst_kept kept_ascends doc moved_ascend)]
        rfl

end Checked

/-! ### Reported chains -/

variable {lists : List InvertedList}

/-- Of well-formed lists `near` asks only for distances that exist. -/
theorem nearChecked_eq (wellFormed : ∀ l ∈ lists, l.WellFormed) (distance : Nat) :
    nearChecked distance lists = some (near distance lists) := by
  have ascends : ∀ c ∈ lists.map Cursor.start, Ascends c :=
    List.forall_mem_map.2 fun l hl => ascends_start (wellFormed l hl)
  exact intersectChecked_eq (fun _ ascending => nearOccurrencesChecked_eq ascending) _ ascends

/-- `near` reports documents in order, and of each of them positions in order.  The positions are
the ends of chains that share no position of the same list.  No distance is missing. -/
theorem near_sound (nonempty : lists ≠ []) (wellFormed : ∀ l ∈ lists, l.WellFormed)
    (distance : Nat) :
    Increasing (near distance lists) ∧
      (∀ p ∈ near distance lists, p.positions.Pairwise (· < ·) ∧
        ∃ found, List.Forall₂ (ChainTo distance (positionLists p.doc lists)) found p.positions ∧
          found.Pairwise Apart) ∧
      nearChecked distance lists = some (near distance lists) := by
  refine ⟨common_increasing _ fun l hl => (wellFormed l hl).increasing.ordered,
    fun p reported => ?_, nearChecked_eq wellFormed distance⟩
  obtain ⟨-, positions_eq, -⟩ :=
    (mem_common_iff nonempty fun l hl => (wellFormed l hl).increasing).1 reported
  obtain ⟨found, chained, ordered⟩ :=
    exists_chains_near distance (positionLists_increasing wellFormed p.doc)
  rw [positions_eq]
  exact ⟨ends_increasing chained ordered, found, chained,
    ordered.imp fun before => before.imp fun _ _ => Nat.ne_of_lt⟩

/-- Three arguments with three anchors and two chains: nothing is close enough to the anchor between
them. -/
theorem near_sound_three :
    let lists := [ofPositions [0, 1, 4], ofPositions [2, 5], ofPositions [3, 6]]
    lists ≠ [] ∧ (∀ l ∈ lists, l.WellFormed) ∧ near 2 lists = [⟨0, [3, 6]⟩] ∧
      (∃ found, List.Forall₂ (ChainTo 2 (positionLists 0 lists)) found [3, 6] ∧
        found.Pairwise Apart) ∧
      nearChecked 2 lists = some [⟨0, [3, 6]⟩] := by
  intro lists
  have nonempty : lists ≠ [] := by simp [lists]
  have wellFormed : ∀ l ∈ lists, l.WellFormed := by simp [lists, wellFormed_ofPositions]
  have computed : near 2 lists = [⟨0, [3, 6]⟩] := by decide +kernel
  obtain ⟨-, reported, checked⟩ := near_sound nonempty wellFormed 2
  obtain ⟨-, chained⟩ := reported ⟨0, [3, 6]⟩ (computed ▸ List.mem_singleton_self _)
  exact ⟨nonempty, wellFormed, computed, chained, checked.trans (congrArg some computed)⟩

end RankedRetrieval.Merge
