import Mathlib.Data.List.Induction
import Mathlib.Data.List.Pairwise
import Mathlib.Data.Prod.Lex
import Mathlib.Data.String.Basic
import RankedRetrieval.Ranking.ScoreList

/-!
# The total order of results

Whatever scores are added to a result, and in whatever order, its report holds the first entries in
one total order.

## Main Definitions

* `Binary64.totalPlace` — the place of 64 bits in the total order of the format
* `BitRanked` — scalars that are ranked by their bits
* `ScoredDocument.rankKey` — what results are ordered by
* `ScoreList.FirstOf` — the first of some entries, in order
* `ScoreList.Distinguished` — entries that can be told apart by what they are ordered by

## Main Results

* `Binary64.totalPlace_injective` — different bits have different places
* `Number.totalKey_eq` — the numbers of a result are ranked by their bits
* `ScoreList.rank_ofEntries` — what is reported of a result

## Design Notes

**All patterns of bits are ranked.**  `Number` knows one pattern for what is not a number, with two
signs.  The results here hold for any scalars that are ranked by the place of their bits, also for
those that keep apart all patterns that are not numbers.

**The order is linear on keys.**  A key is a place, the greatest first, and then a name.  Its laws
are those of lexicographic products; entries with the same key need not be the same.
-/

namespace RankedRetrieval

namespace Binary64

/-! ### Places -/

/-- The place of 64 bits in the total order of the format.  The bits are read as a signed integer,
after those of a negative number, except for its sign, have been flipped. -/
def totalPlace (bits : BitVec 64) : Int :=
  (bits ^^^ (bits.sshiftRight 63 >>> 1)).toInt

theorem signBit_eq : signBit = 2 ^ 63 := rfl

theorem xor_ones {low : Nat} (small : low < 2 ^ 63) :
    low ^^^ (2 ^ 63 - 1) = 2 ^ 63 - 1 - low := by
  have flipped := congrArg BitVec.toNat (BitVec.xor_allOnes (x := BitVec.ofNat 63 low))
  rwa [BitVec.toNat_xor, BitVec.toNat_not, BitVec.toNat_allOnes, BitVec.toNat_ofNat,
    Nat.mod_eq_of_lt small] at flipped

/-- The bits of a positive number are not flipped. -/
theorem mask_of_lt {bits : BitVec 64} (positive : bits.toNat < 2 ^ 63) :
    bits.sshiftRight 63 >>> 1 = 0#64 := by
  have no_sign : bits.msb = false := by
    rw [BitVec.msb_eq_decide]
    exact decide_eq_false (Nat.not_le_of_lt positive)
  have shifted : bits >>> 63 = 0#64 := by
    apply BitVec.eq_of_toNat_eq
    rw [BitVec.toNat_ushiftRight, Nat.shiftRight_eq_div_pow, Nat.div_eq_of_lt positive]
    rfl
  rw [BitVec.sshiftRight_eq_of_msb_false no_sign, shifted]
  rfl

/-- All bits of a negative number are flipped, except for the sign. -/
theorem mask_of_ge {bits : BitVec 64} (negative : 2 ^ 63 ≤ bits.toNat) :
    bits.sshiftRight 63 >>> 1 = BitVec.allOnes 64 >>> 1 := by
  have sign : bits.msb = true := by
    rw [BitVec.msb_eq_decide]
    exact decide_eq_true negative
  have shifted : ~~~bits >>> 63 = 0#64 := by
    apply BitVec.eq_of_toNat_eq
    rw [BitVec.toNat_ushiftRight, BitVec.toNat_not, Nat.shiftRight_eq_div_pow,
      Nat.div_eq_of_lt (by omega)]
    rfl
  rw [BitVec.sshiftRight_eq_of_msb_true sign, shifted]
  rfl

/-- Positive numbers are in the order of their bits; negative ones are before them, in the opposite
order. -/
theorem totalPlace_eq (bits : BitVec 64) :
    totalPlace bits =
      if bits.toNat < signBit then (bits.toNat : Int) else (signBit : Int) - 1 - bits.toNat := by
  have bound := bits.isLt
  rw [signBit_eq]
  unfold totalPlace
  split
  · rename_i positive
    rw [mask_of_lt positive, BitVec.xor_zero, BitVec.toInt_eq_toNat_of_lt (by omega)]
  · rename_i not_positive
    have all_ones : (BitVec.allOnes 64 >>> 1).toNat = 2 ^ 63 - 1 := rfl
    have small : 2 ^ 63 - 1 < 2 ^ 63 := by decide
    rw [mask_of_ge (Nat.le_of_not_lt not_positive), BitVec.toInt_eq_toNat_bmod, BitVec.toNat_xor,
      all_ones]
    have low : (bits.toNat ^^^ (2 ^ 63 - 1)) % 2 ^ 63 = 2 ^ 63 - 1 - bits.toNat % 2 ^ 63 := by
      rw [Nat.xor_mod_two_pow, Nat.mod_eq_of_lt small, xor_ones (Nat.mod_lt _ (by decide))]
    have high : (bits.toNat ^^^ (2 ^ 63 - 1)) / 2 ^ 63 = bits.toNat / 2 ^ 63 := by
      rw [Nat.xor_div_two_pow, Nat.div_eq_of_lt small, Nat.xor_zero]
    generalize bits.toNat ^^^ (2 ^ 63 - 1) = flipped at low high ⊢
    rw [Int.bmod_def]
    omega

/-- Different bits have different places. -/
theorem totalPlace_injective : Function.Injective totalPlace := by
  intro x y same
  have x_bound := x.isLt
  have y_bound := y.isLt
  rw [totalPlace_eq, totalPlace_eq, signBit_eq] at same
  apply BitVec.eq_of_toNat_eq
  split at same <;> split at same <;> omega

end Binary64

/-! ### Scalars with bits -/

/-- Scalars that are ranked by the place of their bits. -/
class BitRanked (α : Type) [Scalar α] where
  /-- The bits of a scalar. -/
  bits : α → BitVec 64
  /-- Rankings compare the places of the bits. -/
  ranksBelow_iff : ∀ x y : α, Scalar.ranksBelow x y = true ↔
    Binary64.totalPlace (bits x) ≤ Binary64.totalPlace (bits y)

namespace Number

/-- The bits of a number; the sign of what is not a number is that of the bits. -/
def bits (x : Number) : BitVec 64 :=
  if x.isNaN && x.negative then x.value.toBits.toBitVec ||| BitVec.intMin 64
  else x.value.toBits.toBitVec

open Float.Model in
open Float.Model.UnpackedFloat (unpackExponent unpackMantissa packedNaN) in
/-- What is not a number has no other bits than these. -/
theorem toBits_of_isNaN {x : Float} (nan : x.isNaN = true) :
    x.toBits.toBitVec = packedNaN Format.binary64 := by
  replace nan : (UnpackedFloat.unpack Format.binary64 x.toBits.toBitVec).isNaN = true := nan
  unfold UnpackedFloat.unpack at nan
  dsimp only at nan
  by_cases top : @unpackExponent Format.binary64 x.toBits.toBitVec = -1#11
  · by_cases empty : @unpackMantissa Format.binary64 x.toBits.toBitVec = 0#52
    · rw [if_pos top, if_pos empty] at nan
      exact absurd nan Bool.false_ne_true
    · exact x.toModel.valid.eq_packedNaN top empty
  · -- below the top exponent there are zeros and other finite numbers only
    rw [if_neg top] at nan
    by_cases bottom : @unpackExponent Format.binary64 x.toBits.toBitVec = 0#11
    · rw [if_pos bottom] at nan
      by_cases empty : @unpackMantissa Format.binary64 x.toBits.toBitVec = 0#52
      · rw [dif_pos empty] at nan
        exact absurd nan Bool.false_ne_true
      · rw [dif_neg empty] at nan
        exact absurd nan Bool.false_ne_true
    · rw [if_neg bottom] at nan
      exact absurd nan Bool.false_ne_true

/-- The place of a number in rankings is that of its bits. -/
theorem totalKey_eq (x : Number) : x.totalKey = Binary64.totalPlace x.bits := by
  unfold totalKey bits
  dsimp only
  split
  · rename_i negative_nan
    have nan := toBits_of_isNaN (Bool.and_eq_true_iff.1 negative_nan).1
    rw [Binary64.totalKey, ← UInt64.toNat_toBitVec, nan]
    decide +kernel
  · exact (Binary64.totalPlace_eq _).symm

end Number

instance numberBitRanked : BitRanked Number where
  bits := Number.bits
  ranksBelow_iff x y := by
    rw [← Number.totalKey_eq, ← Number.totalKey_eq]
    exact decide_eq_true_iff

variable {α : Type}

/-! ### Adding entries -/

namespace ScoreList

/-- The list to which entries have been added one after the other. -/
def ofEntries (added : List (ScoredDocument α)) : ScoreList α :=
  added.foldl (fun l e => l.add e.doc e.externalId e.score) empty

theorem entries_ofEntries (added : List (ScoredDocument α)) :
    (ofEntries added).entries = added := by
  -- the last entry stands behind those before it
  induction added using List.reverseRecOn with
  | nil => rfl
  | append_singleton before e ih =>
    rw [ofEntries, List.foldl_append, List.foldl_cons, List.foldl_nil]
    exact congrArg (· ++ [e]) ih

end ScoreList

/-! ### Keys -/

section Keys

variable [Scalar α]

/-- Sorting keeps the entries. -/
theorem ScoreList.perm_sort (l : ScoreList α) : l.sort.entries.Perm l.entries :=
  List.mergeSort_perm l.entries precedes

variable [BitRanked α] {a b : ScoredDocument α}

/-- What results are ordered by: the place of the score, the greatest first, and then the name. -/
def ScoredDocument.rankKey (e : ScoredDocument α) : ℤᵒᵈ ×ₗ String :=
  toLex (OrderDual.toDual (Binary64.totalPlace (BitRanked.bits e.score)), e.externalId)

namespace ScoreList

theorem rankKey_le_iff : a.rankKey ≤ b.rankKey ↔
    Binary64.totalPlace (BitRanked.bits b.score) < Binary64.totalPlace (BitRanked.bits a.score) ∨
      Binary64.totalPlace (BitRanked.bits b.score) = Binary64.totalPlace (BitRanked.bits a.score) ∧
        a.externalId ≤ b.externalId :=
  Prod.Lex.toLex_le_toLex.trans (or_congr_right (and_congr_left' eq_comm))

/-- Keys forget nothing about scores and names. -/
theorem rankKey_eq_iff : a.rankKey = b.rankKey ↔
    BitRanked.bits a.score = BitRanked.bits b.score ∧ a.externalId = b.externalId := by
  simp only [ScoredDocument.rankKey, toLex_inj, Prod.mk.injEq, OrderDual.toDual_inj,
    Binary64.totalPlace_injective.eq_iff]

/-- Results are sorted by their keys. -/
theorem precedes_iff_rankKey_le : precedes a b = true ↔ a.rankKey ≤ b.rankKey := by
  have not_below : (!Scalar.ranksBelow a.score b.score) = true ↔
      Binary64.totalPlace (BitRanked.bits b.score) <
        Binary64.totalPlace (BitRanked.bits a.score) := by
    rw [Bool.not_eq_true', ← Bool.not_eq_true, BitRanked.ranksBelow_iff, not_le]
  rw [precedes, Bool.and_eq_true, Bool.or_eq_true, not_below, BitRanked.ranksBelow_iff,
    decide_eq_true_iff, rankKey_le_iff]
  constructor
  · rintro ⟨le, better | named⟩
    · exact .inl better
    · exact (lt_or_eq_of_le le).imp_right fun same => ⟨same, named⟩
  · rintro (better | ⟨same, named⟩)
    · exact ⟨le_of_lt better, .inl better⟩
    · exact ⟨le_of_eq same, .inr named⟩

/-! ### Sorting -/

/-- Sorting puts entries in the order of their keys. -/
theorem pairwise_rankKey_sort (l : ScoreList α) :
    l.sort.entries.Pairwise fun a b => a.rankKey ≤ b.rankKey := by
  have sorted : (l.entries.mergeSort precedes).Pairwise fun a b => precedes a b = true := by
    refine List.pairwise_mergeSort (fun a b c first second => ?_) (fun a b => ?_) l.entries
    · rw [precedes_iff_rankKey_le] at first second ⊢
      exact le_trans first second
    · rw [Bool.or_eq_true, precedes_iff_rankKey_le, precedes_iff_rankKey_le]
      exact le_total a.rankKey b.rankKey
  exact sorted.imp precedes_iff_rankKey_le.1

/-- Entries that differ in the bits of their scores or in their names. -/
def Distinguished (entries : List (ScoredDocument α)) : Prop :=
  entries.Pairwise fun a b =>
    ¬(BitRanked.bits a.score = BitRanked.bits b.score ∧ a.externalId = b.externalId)

/-- Among entries that can be told apart, a key belongs to one entry. -/
theorem Distinguished.eq_of_rankKey_eq {entries : List (ScoredDocument α)}
    (distinguished : Distinguished entries) (ha : a ∈ entries) (hb : b ∈ entries)
    (same : a.rankKey = b.rankKey) : a = b := by
  by_contra different
  have symmetric : Std.Symm fun a b : ScoredDocument α =>
      ¬(BitRanked.bits a.score = BitRanked.bits b.score ∧ a.externalId = b.externalId) :=
    ⟨fun a b apart equal => apart ⟨equal.1.symm, equal.2.symm⟩⟩
  exact List.Pairwise.forall distinguished ha hb different (rankKey_eq_iff.1 same)

/-- The order in which entries were found makes no difference when they can be told apart. -/
theorem sort_eq_of_perm {l others : ScoreList α} (perm : others.entries.Perm l.entries)
    (distinguished : Distinguished l.entries) : others.sort = l.sort := by
  refine congrArg ScoreList.mk (List.Perm.eq_of_pairwise (fun a b ha hb before after => ?_)
    (pairwise_rankKey_sort others) (pairwise_rankKey_sort l)
    ((perm_sort others).trans (perm.trans (perm_sort l).symm)))
  have in_others : a ∈ others.entries := (perm_sort others).subset ha
  exact distinguished.eq_of_rankKey_eq (perm.subset in_others) ((perm_sort l).subset hb)
    (le_antisymm before after)

/-! ### What is reported -/

/-- The first of some entries, in order. -/
structure FirstOf (added ranked : List (ScoredDocument α)) : Prop where
  /-- They are in order. -/
  sorted : ranked.Pairwise fun a b => a.rankKey ≤ b.rankKey
  /-- There are as many as have been added, but no more than are reported. -/
  length_eq : ranked.length = min maxResults added.length
  /-- They have been added, and nothing that is left out comes before any of them. -/
  left_out : ∃ others, (ranked ++ others).Perm added ∧
    ∀ a ∈ ranked, ∀ b ∈ others, ¬b.rankKey < a.rankKey

theorem firstOf_rank (l : ScoreList α) : FirstOf l.entries l.rank.entries := by
  have whole := List.take_append_drop maxResults l.sort.entries
  have kept := perm_sort l
  have sorted := pairwise_rankKey_sort l
  rw [← whole, List.pairwise_append] at sorted
  obtain ⟨sorted, -, before⟩ := sorted
  refine ⟨sorted, ?_, _, ?_, fun a ha b hb => not_lt_of_ge (before a ha b hb)⟩
  · rw [rank, truncate, List.length_take, kept.length_eq]
  · rw [rank, truncate, whole]
    exact kept

/-- What is reported of any added entries are the first of them, and the order in which they were
added makes no difference when they can be told apart. -/
theorem rank_ofEntries (added : List (ScoredDocument α)) :
    FirstOf added (ofEntries added).rank.entries ∧
      ∀ others : List (ScoredDocument α), others.Perm added → Distinguished added →
        (ofEntries others).rank = (ofEntries added).rank := by
  constructor
  · have first := firstOf_rank (ofEntries added)
    rwa [entries_ofEntries] at first
  · intro others perm distinguished
    refine congrArg (truncate · maxResults) (sort_eq_of_perm ?_ ?_)
    · rwa [entries_ofEntries, entries_ofEntries]
    · rwa [entries_ofEntries]

end ScoreList

end Keys

namespace ScoreList

/-- Both zeros, both infinities and both kinds of what is not a number, added from behind. -/
theorem rank_ofEntries_special :
    let zero : Number := .ofFloat (Binary64.nearest false 0 1)
    let minusZero : Number := .ofFloat (Binary64.nearest true 0 1)
    let inOrder : List (ScoredDocument Number) :=
      [⟨6, "nan", .notANumber false⟩, ⟨5, "inf", .ofFloat (Binary64.infinity false)⟩,
        ⟨4, "a", zero⟩, ⟨3, "b", zero⟩, ⟨2, "-0", minusZero⟩,
        ⟨1, "-inf", .ofFloat (Binary64.infinity true)⟩, ⟨0, "-nan", .notANumber true⟩]
    inOrder.reverse.Perm inOrder ∧ Distinguished inOrder ∧
      (ofEntries inOrder.reverse).rank = (ofEntries inOrder).rank ∧
      (ofEntries inOrder).rank.entries = inOrder := by
  intro zero minusZero inOrder
  have distinguished : Distinguished inOrder := by
    unfold Distinguished
    decide +kernel
  have stays : inOrder.mergeSort precedes = inOrder :=
    List.mergeSort_of_pairwise (by decide +kernel)
  refine ⟨inOrder.reverse_perm, distinguished,
    (rank_ofEntries inOrder).2 inOrder.reverse inOrder.reverse_perm distinguished, ?_⟩
  rw [rank, truncate, sort, entries_ofEntries, stays]
  rfl

end ScoreList

end RankedRetrieval
