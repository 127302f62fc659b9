import Mathlib.Order.Nat
import RankedRetrieval.Proofs.Positional.Agreement

/-!
# Chains of close positions

What `near` reports, beside the chains of positions that its arguments have.

## Main Definitions

* `Merge.LeadsOn`, `Merge.HasChain` — chains of positions through several lists
* `Merge.Within`, `Merge.Nearest` — steps of a bounded length, and those to the nearest position
* `Merge.Reports` — a document is among some postings

## Main Results

* `Merge.leadsOn_of_extend` — an extension is a chain of close positions
* `Merge.extend_of_nearest`, `Merge.extend_before` — an extension meets the nearest positions, and
  one that fails uses up none of those of a later anchor
* `Merge.near_chains` — documents with a chain of nearest positions are reported, and reported
  documents have a chain of close positions
* `Merge.near_misses` — not every document with a chain of close positions is reported

## Design Notes

**Only the nearest position is tried.**  An extension goes from a position to the next one of the
following list and does not come back for a later one.  With two lists nothing is lost, because
the next position is the closest.  With three, a later position of the second list may be the one
from which the third is close enough.
-/

namespace RankedRetrieval.Merge

/-! ### Chains -/

/-- A position leads on through further position lists, each step being one that the rule
allows. -/
def LeadsOn (step : List Nat → Nat → Nat → Prop) (last : Nat) : List (List Nat) → Prop
  | [] => True
  | positions :: others =>
    ∃ next ∈ positions, step positions last next ∧ LeadsOn step next others

/-- Position lists have a chain through all of them. -/
def HasChain (step : List Nat → Nat → Nat → Prop) : List (List Nat) → Prop
  | [] => False
  | anchors :: others => ∃ anchor ∈ anchors, LeadsOn step anchor others

/-- A step to a later position at most `distance` away. -/
def Within (distance : Nat) (_positions : List Nat) (last next : Nat) : Prop :=
  last < next ∧ next - last ≤ distance

/-- A step to the nearest later position, which is at most `distance` away. -/
def Nearest (distance : Nat) (positions : List Nat) (last next : Nat) : Prop :=
  Within distance positions last next ∧ ∀ x ∈ positions, last < x → next ≤ x

section Positions

variable {step : List Nat → Nat → Nat → Prop} {distance before last now anchor : Nat}
  {positions later anchors : List Nat} {others lists left : List (List Nat)}
  {reached : Option Nat}

/-- Every list of a chain has a position. -/
theorem LeadsOn.ne_nil (leads : LeadsOn step last lists) : ∀ l ∈ lists, l ≠ [] := by
  induction lists generalizing last with
  | nil => simp
  | cons positions others ih =>
    obtain ⟨next, member, -, further⟩ := leads
    exact List.forall_mem_cons.2 ⟨List.ne_nil_of_mem member, ih further⟩

theorem HasChain.ne_nil (chain : HasChain step lists) : ∀ l ∈ lists, l ≠ [] := by
  cases lists with
  | nil => simp
  | cons anchors others =>
    obtain ⟨anchor, member, leads⟩ := chain
    exact List.forall_mem_cons.2 ⟨List.ne_nil_of_mem member, leads.ne_nil⟩

/-- A chain of close positions through what is left of lists is one through the lists. -/
theorem LeadsOn.of_leftOf (leftOf : LeftOf left lists)
    (leads : LeadsOn (Within distance) last left) : LeadsOn (Within distance) last lists := by
  induction leftOf generalizing last with
  | nil => trivial
  | cons suffix _ ih =>
    obtain ⟨next, member, close, further⟩ := leads
    exact ⟨next, suffix.subset member, close, ih further⟩

/-- With one further list, a position close by makes the nearest one close by. -/
theorem LeadsOn.nearest (leads : LeadsOn (Within distance) last [positions]) :
    LeadsOn (Nearest distance) last [positions] := by
  obtain ⟨next, member, ⟨later, close⟩, -⟩ := leads
  have some_later : ∃ x, x ∈ positions ∧ last < x := ⟨next, member, later⟩
  obtain ⟨first, first_later⟩ := Nat.find_spec some_later
  have le : Nat.find some_later ≤ next := Nat.find_min' some_later ⟨member, later⟩
  exact ⟨Nat.find some_later, first,
    ⟨⟨first_later, Nat.le_trans (Nat.sub_le_sub_right le last) close⟩,
      fun x hx lt => Nat.find_min' some_later ⟨hx, lt⟩⟩, trivial⟩

/-! ### The next position -/

/-- Behind a position stand exactly the greater ones. -/
theorem mem_skipPassed (ascending : positions.Pairwise (· ≤ ·)) {x : Nat} :
    x ∈ Cursor.skipPassed (· ≤ last) positions ↔ x ∈ positions ∧ last < x := by
  rw [skipPassed_eq_dropWhile_le ascending]
  induction positions with
  | nil => simp
  | cons p positions ih =>
    obtain ⟨least, ascending⟩ := List.pairwise_cons.1 ascending
    by_cases passed : p ≤ last
    · rw [List.dropWhile_cons_of_pos (by simpa using passed), ih ascending, List.mem_cons]
      refine ⟨fun ⟨member, later⟩ => ⟨.inr member, later⟩, fun ⟨member, later⟩ => ⟨?_, later⟩⟩
      exact member.resolve_left (Nat.ne_of_gt (Nat.lt_of_le_of_lt passed later))
    · rw [List.dropWhile_cons_of_neg (by simpa using passed)]
      have first : last < p := Nat.lt_of_not_le passed
      refine ⟨fun member => ⟨member, ?_⟩, And.left⟩
      rcases List.mem_cons.1 member with rfl | behind
      · exact first
      · exact Nat.lt_of_lt_of_le first (least x behind)

/-- The next position is the nearest later one. -/
theorem nearest_of_skipPassed (ascending : positions.Pairwise (· ≤ ·))
    (skipped : Cursor.skipPassed (· ≤ last) positions = now :: later) :
    now ∈ positions ∧ last < now ∧ ∀ x ∈ positions, last < x → now ≤ x := by
  obtain ⟨member, after⟩ := (mem_skipPassed ascending).1 (skipped ▸ List.mem_cons_self)
  refine ⟨member, after, fun x hx lt => ?_⟩
  have ahead : x ∈ now :: later := skipped ▸ (mem_skipPassed ascending).2 ⟨hx, lt⟩
  have suffix : (now :: later) <:+ positions := skipped ▸ Cursor.skipPassed_suffix _ positions
  rcases List.mem_cons.1 ahead with rfl | behind
  · exact Nat.le_refl x
  · exact (List.pairwise_cons.1 (ascending.sublist suffix.sublist)).1 x behind

/-! ### Extensions -/

/-- An extension leaves ends of the lists, and if it succeeds then there is a chain of close
positions. -/
theorem leadsOn_of_extend (ascending : ∀ l ∈ lists, l.Pairwise (· ≤ ·))
    (extended : extend distance last lists = some (reached, left)) :
    LeftOf left lists ∧ (reached.isSome → LeadsOn (Within distance) last lists) := by
  induction lists generalizing last reached left with
  | nil =>
    obtain ⟨-, rfl⟩ : some last = reached ∧ [] = left := by simpa [extend] using extended
    exact ⟨.nil, fun _ => trivial⟩
  | cons positions others ih =>
    obtain ⟨first, further⟩ := List.forall_mem_cons.1 ascending
    have suffix := Cursor.skipPassed_suffix (· ≤ last) positions
    rw [extend] at extended
    split at extended
    · simp at extended
    · rename_i now later skipped
      obtain ⟨member, after, -⟩ := nearest_of_skipPassed first skipped
      rw [skipped] at suffix
      split at extended
      · obtain ⟨rfl, rfl⟩ : none = reached ∧ (now :: later) :: others = left := by
          simpa using extended
        exact ⟨.cons suffix (List.forall₂_same.2 fun l _ => List.suffix_refl l), by simp⟩
      · rename_i close
        obtain ⟨⟨reached', left'⟩, next, same⟩ := Option.map_eq_some_iff.1 extended
        obtain ⟨rfl, rfl⟩ := Prod.mk.inj same
        obtain ⟨leftOf, leads⟩ := ih further next
        have behind := Cursor.skipPassed_suffix (· ≤ now) (now :: later)
        exact ⟨.cons (behind.trans suffix) leftOf, fun success =>
          ⟨now, member, ⟨after, Nat.le_of_not_lt close⟩, leads success⟩⟩

/-- An extension meets the nearest positions. -/
theorem extend_of_nearest (ascending : ∀ l ∈ lists, l.Pairwise (· ≤ ·))
    (leads : LeadsOn (Nearest distance) last lists) :
    ∃ final left, extend distance last lists = some (some final, left) := by
  induction lists generalizing last with
  | nil => exact ⟨last, [], rfl⟩
  | cons positions others ih =>
    obtain ⟨first, further⟩ := List.forall_mem_cons.1 ascending
    obtain ⟨next, member, ⟨⟨after, close⟩, nearest⟩, onward⟩ := leads
    have ahead := (mem_skipPassed first).2 ⟨member, after⟩
    obtain ⟨now, later, skipped⟩ := List.exists_cons_of_ne_nil (List.ne_nil_of_mem ahead)
    obtain ⟨here, lt, least⟩ := nearest_of_skipPassed first skipped
    obtain rfl : next = now := Nat.le_antisymm (nearest now here lt) (least next member after)
    obtain ⟨final, left, extended⟩ := ih further onward
    rw [extend, skipped]
    dsimp only
    rw [if_neg (Nat.not_lt_of_le close), extended]
    exact ⟨final, _, rfl⟩

/-- An extension from an earlier position that fails uses up none of the nearest positions. -/
theorem extend_before (ascending : ∀ l ∈ lists, l.Pairwise (· ≤ ·)) (le : before ≤ last)
    (leads : LeadsOn (Nearest distance) last lists) :
    (∃ final left, extend distance before lists = some (some final, left)) ∨
      ∃ left, extend distance before lists = some (none, left) ∧
        LeadsOn (Nearest distance) last left := by
  induction lists generalizing before last with
  | nil => exact .inl ⟨before, [], rfl⟩
  | cons positions others ih =>
    obtain ⟨first, further⟩ := List.forall_mem_cons.1 ascending
    obtain ⟨next, member, ⟨within, nearest⟩, onward⟩ := leads
    have after : before < next := Nat.lt_of_le_of_lt le within.1
    have ahead := (mem_skipPassed first).2 ⟨member, after⟩
    obtain ⟨now, later, skipped⟩ := List.exists_cons_of_ne_nil (List.ne_nil_of_mem ahead)
    have suffix : (now :: later) <:+ positions := skipped ▸ Cursor.skipPassed_suffix _ positions
    obtain ⟨-, -, least⟩ := nearest_of_skipPassed first skipped
    have reached : now ≤ next := least next member after
    -- whatever keeps the nearest position of the first list still leads on
    have kept {rest : List Nat} {left : List (List Nat)} (sub : rest <:+ positions)
        (here : next ∈ rest) (leads : LeadsOn (Nearest distance) next left) :
        LeadsOn (Nearest distance) last (rest :: left) :=
      ⟨next, here, ⟨within, fun x hx => nearest x (sub.subset hx)⟩, leads⟩
    rw [extend, skipped]
    rw [skipped] at ahead
    dsimp only
    split
    · exact .inr ⟨_, rfl, kept suffix ahead onward⟩
    · rcases Nat.eq_or_lt_of_le reached with rfl | passing
      · obtain ⟨final, left, extended⟩ := extend_of_nearest further onward
        exact .inl ⟨final, _, by rw [extended]; rfl⟩
      · have ascendingLater := first.sublist suffix.sublist
        have behind := (Cursor.skipPassed_suffix (· ≤ now) (now :: later)).trans suffix
        have survives := (mem_skipPassed ascendingLater).2 ⟨ahead, passing⟩
        rcases ih further reached onward with ⟨final, left, extended⟩ | ⟨left, extended, leads⟩
        · exact .inl ⟨final, _, by rw [extended]; rfl⟩
        · exact .inr ⟨_, by rw [extended]; rfl, kept behind survives leads⟩

/-! ### Reported chains -/

/-- An anchor with a chain of nearest positions is not lost. -/
theorem chains_ne_nil (anchored : anchors.Pairwise (· ≤ ·))
    (ascending : ∀ l ∈ others, l.Pairwise (· ≤ ·)) (member : anchor ∈ anchors)
    (leads : LeadsOn (Nearest distance) anchor others) : chains distance anchors others ≠ [] := by
  induction anchors generalizing others with
  | nil => simp at member
  | cons a anchors ih =>
    obtain ⟨least, anchored⟩ := List.pairwise_cons.1 anchored
    rw [chains]
    rcases List.mem_cons.1 member with rfl | behind
    · obtain ⟨final, left, extended⟩ := extend_of_nearest ascending leads
      simp [extended]
    · rcases extend_before ascending (least anchor behind) leads with
        ⟨final, left, extended⟩ | ⟨left, extended, leads⟩
      · simp [extended]
      · rw [extended]
        have leftOf := (leadsOn_of_extend ascending extended).1
        exact ih anchored (leftOf.pairwise ascending) behind leads

/-- Where something is reported, some anchor has a chain of close positions. -/
theorem exists_anchor (ascending : ∀ l ∈ others, l.Pairwise (· ≤ ·))
    (found : chains distance anchors others ≠ []) :
    ∃ anchor ∈ anchors, LeadsOn (Within distance) anchor others := by
  induction anchors generalizing others with
  | nil => simp [chains] at found
  | cons a anchors ih =>
    rw [chains] at found
    split at found
    · simp at found
    · rename_i last left extended
      exact ⟨a, List.mem_cons_self, (leadsOn_of_extend ascending extended).2 rfl⟩
    · rename_i left extended
      have leftOf := (leadsOn_of_extend ascending extended).1
      obtain ⟨anchor, member, leads⟩ := ih (leftOf.pairwise ascending) found
      exact ⟨anchor, List.mem_cons_of_mem a member, leads.of_leftOf leftOf⟩

theorem nearOccurrences_ne_nil (ascending : ∀ l ∈ lists, l.Pairwise (· ≤ ·))
    (chain : HasChain (Nearest distance) lists) : nearOccurrences distance lists ≠ [] := by
  cases lists with
  | nil => exact chain.elim
  | cons anchors others =>
    obtain ⟨anchor, member, leads⟩ := chain
    obtain ⟨first, further⟩ := List.forall_mem_cons.1 ascending
    exact chains_ne_nil first further member leads

theorem hasChain_of_nearOccurrences (ascending : ∀ l ∈ lists, l.Pairwise (· ≤ ·))
    (found : nearOccurrences distance lists ≠ []) : HasChain (Within distance) lists := by
  cases lists with
  | nil => exact found rfl
  | cons anchors others => exact exists_anchor (List.forall_mem_cons.1 ascending).2 found

/-- With at most two lists, a chain of close positions makes one of nearest positions. -/
theorem HasChain.nearest (few : lists.length ≤ 2) (chain : HasChain (Within distance) lists) :
    HasChain (Nearest distance) lists := by
  match lists, few, chain with
  | [_], _, ⟨anchor, member, _⟩ => exact ⟨anchor, member, trivial⟩
  | [_, _], _, ⟨anchor, member, leads⟩ => exact ⟨anchor, member, leads.nearest⟩

end Positions

/-! ### Reported documents -/

theorem increasing_positionsIn {l : InvertedList} (wellFormed : l.WellFormed) (doc : DocId) :
    (l.positionsIn doc).Pairwise (· < ·) := by
  rw [InvertedList.positionsIn, Posting.positionsOf]
  cases found : l.posting? doc with
  | none => exact List.Pairwise.nil
  | some p => exact wellFormed.ascending p (List.mem_of_find?_eq_some found)

theorem ascending_positionsIn {l : InvertedList} (wellFormed : l.WellFormed) (doc : DocId) :
    (l.positionsIn doc).Pairwise (· ≤ ·) :=
  (increasing_positionsIn wellFormed doc).imp Nat.le_of_lt

theorem posting?_isSome_of_positionsIn {l : InvertedList} {doc : DocId}
    (some_position : l.positionsIn doc ≠ []) : (l.posting? doc).isSome := by
  cases found : l.posting? doc with
  | none => simp [InvertedList.positionsIn, Posting.positionsOf, found] at some_position
  | some p => rfl

/-- The positions of a document in each of some lists. -/
def positionLists (doc : DocId) (lists : List InvertedList) : List (List Nat) :=
  lists.map fun l => l.positionsIn doc

/-- Some postings report a document. -/
def Reports (postings : List Posting) (doc : DocId) : Prop := ∃ p ∈ postings, p.doc = doc

variable {lists : List InvertedList}

/-- Of some lists, a document is reported when all of them hold it and have occurrences among
their positions in it. -/
theorem reports_common_iff {occurrences : List (List Nat) → List Nat} (nonempty : lists ≠ [])
    (wellFormed : ∀ l ∈ lists, l.WellFormed) (doc : DocId) :
    Reports (common occurrences lists) doc ↔
      (∀ l ∈ lists, (l.posting? doc).isSome) ∧ occurrences (positionLists doc lists) ≠ [] := by
  have member (p : Posting) : p ∈ common occurrences lists ↔ _ :=
    mem_common_iff nonempty fun l hl => (wellFormed l hl).increasing
  constructor
  · rintro ⟨p, reported, rfl⟩
    obtain ⟨held, positions_eq, positions_ne_nil⟩ := (member p).1 reported
    exact ⟨held, positions_eq ▸ positions_ne_nil⟩
  · rintro ⟨held, found⟩
    exact ⟨⟨doc, _⟩, (member _).2 ⟨held, rfl, found⟩, rfl⟩

/-- A document is reported when the lists have occurrences among their positions in it. -/
theorem reports_near_iff (wellFormed : ∀ l ∈ lists, l.WellFormed) (distance : Nat)
    (doc : DocId) :
    Reports (near distance lists) doc ↔
      (∀ l ∈ lists, (l.posting? doc).isSome) ∧
        nearOccurrences distance (positionLists doc lists) ≠ [] := by
  rcases lists with _ | ⟨l, ls⟩
  · simp [Reports, near, common, intersect, Cursor.totalRemaining, positionLists,
      nearOccurrences]
  · exact reports_common_iff (List.cons_ne_nil l ls) wellFormed doc

/-- `near` reports no document without a chain of close positions, and every document with one of
nearest positions.  With at most two arguments these are the documents with a chain of close
positions. -/
theorem near_chains (wellFormed : ∀ l ∈ lists, l.WellFormed) (distance : Nat) (doc : DocId) :
    (Reports (near distance lists) doc → HasChain (Within distance) (positionLists doc lists)) ∧
      (HasChain (Nearest distance) (positionLists doc lists) →
        Reports (near distance lists) doc) ∧
      (lists.length ≤ 2 → (Reports (near distance lists) doc ↔
        HasChain (Within distance) (positionLists doc lists))) := by
  have ascending : ∀ l ∈ positionLists doc lists, l.Pairwise (· ≤ ·) :=
    List.forall_mem_map.2 fun l hl => ascending_positionsIn (wellFormed l hl) doc
  have sound (reported : Reports (near distance lists) doc) :
      HasChain (Within distance) (positionLists doc lists) :=
    hasChain_of_nearOccurrences ascending ((reports_near_iff wellFormed distance doc).1 reported).2
  have complete (chain : HasChain (Nearest distance) (positionLists doc lists)) :
      Reports (near distance lists) doc :=
    (reports_near_iff wellFormed distance doc).2
      ⟨fun l hl => posting?_isSome_of_positionsIn (chain.ne_nil _ (List.mem_map_of_mem hl)),
        nearOccurrences_ne_nil ascending chain⟩
  refine ⟨sound, complete, fun few => ⟨sound, fun chain => complete (chain.nearest ?_)⟩⟩
  rwa [positionLists, List.length_map]

/-- A list that holds one document at given positions. -/
def ofPositions (positions : List Nat) : InvertedList := ⟨"body", [⟨0, positions⟩]⟩

theorem wellFormed_ofPositions {positions : List Nat} (ascending : positions.Pairwise (· < ·)) :
    (ofPositions positions).WellFormed where
  increasing := List.pairwise_singleton _ _
  ascending p member := by
    obtain rfl : p = ⟨0, positions⟩ := List.mem_singleton.1 member
    exact ascending

/-- Two arguments, the second of which occurs right behind the first one. -/
theorem near_chains_pair :
    (∀ l ∈ [ofPositions [0, 5], ofPositions [1]], l.WellFormed) ∧
      Reports (near 1 [ofPositions [0, 5], ofPositions [1]]) 0 := by
  have wellFormed : ∀ l ∈ [ofPositions [0, 5], ofPositions [1]], l.WellFormed := by
    simp [wellFormed_ofPositions]
  refine ⟨wellFormed, ((near_chains wellFormed 1 0).2.2 (by decide)).2 ?_⟩
  exact ⟨0, by decide, 1, by decide, ⟨by decide, by decide⟩, trivial⟩

/-- Of three arguments, the chain through the second position of the second one is missed. -/
theorem near_misses :
    (∀ l ∈ [ofPositions [0], ofPositions [1, 2], ofPositions [4]], l.WellFormed) ∧
      HasChain (Within 2) (positionLists 0 [ofPositions [0], ofPositions [1, 2], ofPositions [4]]) ∧
        ¬ Reports (near 2 [ofPositions [0], ofPositions [1, 2], ofPositions [4]]) 0 := by
  refine ⟨by simp [wellFormed_ofPositions], ?_, ?_⟩
  · exact ⟨0, by decide, 2, by decide, ⟨by decide, by decide⟩, 4, by decide,
      ⟨by decide, by decide⟩, trivial⟩
  · have nothing : near 2 [ofPositions [0], ofPositions [1, 2], ofPositions [4]] = [] := by
      decide +kernel
    simp [Reports, nothing]

end RankedRetrieval.Merge
