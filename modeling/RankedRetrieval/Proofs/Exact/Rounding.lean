import RankedRetrieval.Proofs.Exact.Counts

/-!
# Counts as floating-point numbers

A count becomes the floating-point number that is nearest to it.  Rounding keeps the order of
counts, so that the greater and the lesser of two numbers come from the greater and the lesser of
two counts.

## Main Definitions

* `Rounding.digits` — a mantissa and what is left of the digits behind it, as one number
* `Rounding.rounded` — a natural over a power of two, rounded
* `Rounding.Normal` — a positive number with its mantissa and its exponent

## Main Results

* `Rounding.rounded_mono` — rounding keeps the order
* `Rounding.exists_normal_ofNat` — a positive count becomes a normal number
* `numberComparesCounts` — floating-point numbers compare counts as naturals

## Design Notes

Digits that are shifted out of a mantissa leave the first of them and whether any other was not
zero.  Read as one number in front of which the mantissa stands, both survive a shift in order, and
how the mantissa is rounded depends on that number alone.
-/

namespace RankedRetrieval.Rounding

open Float.Model Float.Model.UnpackedFloat

/-! ### Shifting and rounding -/

/-- A mantissa with its round bit and its sticky bit behind it. -/
def digits (em : ExtendedMantissa) : Nat :=
  4 * em.mantissa + 2 * em.roundBit.toNat + em.stickyBit.toNat

theorem digits_shiftRightOne (em : ExtendedMantissa) :
    digits em.shiftRightOne = 2 * (digits em / 4) + min 1 (digits em % 4) := by
  obtain ⟨m, r, s⟩ := em
  rcases Nat.mod_two_eq_zero_or_one m with even | odd
  · cases r <;> cases s <;> simp [digits, ExtendedMantissa.shiftRightOne, even] <;> omega
  · cases r <;> cases s <;> simp [digits, ExtendedMantissa.shiftRightOne, odd] <;> omega

theorem digits_shiftRight_mono {em em' : ExtendedMantissa} (le : digits em ≤ digits em')
    (s : Nat) : digits (em >>> s) ≤ digits (em' >>> s) := by
  induction s with
  | zero => exact le
  | succ s ih =>
    show digits (em >>> s).shiftRightOne ≤ digits (em' >>> s).shiftRightOne
    rw [digits_shiftRightOne, digits_shiftRightOne]
    omega

theorem mantissa_shiftRight (em : ExtendedMantissa) (s : Nat) :
    (em >>> s).mantissa = em.mantissa / 2 ^ s := by
  induction s with
  | zero =>
    rw [Nat.pow_zero, Nat.div_one]
    rfl
  | succ s ih =>
    show (em >>> s).mantissa / 2 = _
    rw [ih, Nat.div_div_eq_div_mul, Nat.pow_succ]

theorem digits_div_four (em : ExtendedMantissa) : digits em / 4 = em.mantissa := by
  have round_bit := Bool.toNat_le em.roundBit
  have sticky_bit := Bool.toNat_le em.stickyBit
  unfold digits
  omega

/-- A mantissa is rounded to the nearest one, and at a tie to an even one. -/
theorem roundedMantissa_eq (em : ExtendedMantissa) :
    em.roundedMantissa = (digits em + 1 + digits em / 4 % 2) / 4 := by
  rw [digits_div_four]
  obtain ⟨m, r, s⟩ := em
  cases r <;> cases s <;>
    simp only [digits, ExtendedMantissa.roundedMantissa, ExtendedMantissa.accuracy,
      Accuracy.roundToNearestEven, Bool.toNat_true, Bool.toNat_false] <;> omega

theorem roundedMantissa_mono {em em' : ExtendedMantissa} (le : digits em ≤ digits em') :
    em.roundedMantissa ≤ em'.roundedMantissa := by
  rw [roundedMantissa_eq, roundedMantissa_eq]
  by_cases same : digits em / 4 = digits em' / 4
  · rw [same]
    exact Nat.div_le_div_right (by omega)
  · have parity : digits em / 4 % 2 ≤ 1 := Nat.le_of_lt_succ (Nat.mod_lt _ Nat.two_pos)
    omega

/-- A natural over a power of two, rounded to the nearest natural. -/
def rounded (a s : Nat) : Nat :=
  (ExtendedMantissa.ofMantissaAndAccuracy a .exact >>> s).roundedMantissa

/-- Rounding keeps the order. -/
theorem rounded_mono {a b : Nat} (le : a ≤ b) (s : Nat) : rounded a s ≤ rounded b s := by
  refine roundedMantissa_mono (digits_shiftRight_mono ?_ s)
  simp only [digits, ExtendedMantissa.ofMantissaAndAccuracy]
  omega

/-- Rounding cuts the digits off or adds one. -/
theorem rounded_bounds (a s : Nat) : a / 2 ^ s ≤ rounded a s ∧ rounded a s ≤ a / 2 ^ s + 1 := by
  have mantissa := mantissa_shiftRight (ExtendedMantissa.ofMantissaAndAccuracy a .exact) s
  rw [← digits_div_four] at mantissa
  have whole : digits (ExtendedMantissa.ofMantissaAndAccuracy a .exact >>> s) / 4 = a / 2 ^ s :=
    mantissa
  rw [rounded, roundedMantissa_eq, ← whole]
  omega

/-! ### Normal numbers -/

/-- A positive number with a mantissa of 53 digits. -/
structure Normal (x : Float) (mantissa : Nat) (exponent : Int) : Prop where
  /-- The number is packed from its mantissa and its exponent. -/
  packed : ∃ positive, x = ⟨.pack (.finite .positive mantissa exponent positive)⟩
  /-- The first digit is not zero. -/
  le_mantissa : 2 ^ 52 ≤ mantissa
  /-- There are no more digits. -/
  mantissa_lt : mantissa < 2 ^ 53
  /-- The exponent is not too small. -/
  le_exponent : -1074 ≤ exponent
  /-- The exponent is not too large. -/
  exponent_le : exponent ≤ 971

theorem log2_of_bounds {m k : Nat} (le : 2 ^ k ≤ m) (lt : m < 2 ^ (k + 1)) : m.log2 = k := by
  have some_digit : m ≠ 0 := Nat.ne_of_gt (Nat.lt_of_lt_of_le (Nat.two_pow_pos k) le)
  have upper := (Nat.log2_lt some_digit).2 lt
  have lower := (Nat.le_log2 some_digit).2 le
  omega

/-- The digit that is not stored stands in front of the others. -/
theorem toNat_append_mantissa {m : Nat} (le : 2 ^ 52 ≤ m) (lt : m < 2 ^ 53) :
    (1#1 ++ BitVec.ofNat 52 m).toNat = m := by
  rw [BitVec.toNat_append, ← Nat.shiftLeft_add_eq_or_of_lt (BitVec.ofNat 52 m).isLt,
    BitVec.toNat_ofNat]
  simp only [Nat.shiftLeft_eq]
  show 1 * 2 ^ 52 + m % 2 ^ 52 = m
  omega

/-- The digit in front of all others is the sign. -/
theorem unpackSign_positive {spec : Format} (exponent : BitVec spec.exponentBits)
    (mantissa : BitVec spec.mantissaBitsWithoutImplicit) :
    unpackSign (packComponents spec .positive exponent mantissa) = Sign.positive.toBitVec := by
  have first : unpackSign (packComponents spec .positive exponent mantissa) =
      ((packComponents spec .positive exponent mantissa).extractLsb
        (spec.mantissaBitsWithoutImplicit + spec.exponentBits)
        (spec.mantissaBitsWithoutImplicit + spec.exponentBits)).cast (by omega) := rfl
  rw [first]
  ext i digit
  obtain rfl : i = 0 := Nat.lt_one_iff.1 digit
  simp [packComponents, BitVec.extractLsb, BitVec.getLsbD_append, BitVec.getElem_append]

/-- A finite number is known from its sign, its mantissa and its exponent. -/
theorem finite_congr {s t : Sign} {m n : Nat} {d e : Int} {some_digit : 0 < m}
    {other_digit : 0 < n} (sign : s = t) (mantissa : m = n) (exponent : d = e) :
    UnpackedFloat.finite s m d some_digit = .finite t n e other_digit := by
  subst sign mantissa exponent
  rfl

/-- A number whose exponent is neither the least nor the greatest one has a first digit that is not
stored. -/
theorem unpack_of_exponent {spec : Format} {b : BitVec spec.numBits}
    (not_top : unpackExponent b ≠ -1#_) (not_zero : unpackExponent b ≠ 0#_) :
    ∃ positive, unpack spec b = .finite (.ofBitVec (unpackSign b)) (1#1 ++ unpackMantissa b).toNat
      ((unpackExponent b).toNat - (spec.exponentBias + spec.mantissaBitsWithoutImplicit))
      positive :=
  ⟨_, (if_neg not_top).trans (if_neg not_zero)⟩

/-- A normal number is unpacked into its mantissa and its exponent. -/
theorem Normal.unpack_eq {x : Float} {m : Nat} {e : Int} (normal : Normal x m e) :
    ∃ positive, x.toModel.unpack = .finite .positive m e positive := by
  obtain ⟨⟨positive, rfl⟩, le, lt, low, high⟩ := normal
  refine ⟨positive, ?_⟩
  have log2 : m.log2 + 1 = Format.mantissaBits Format.binary64 := by
    rw [log2_of_bounds le lt]
    rfl
  obtain ⟨field, hfield⟩ : ∃ field : Nat, e = field - 1075 := ⟨(e + 1075).toNat, by omega⟩
  have biased : (e + (Format.exponentBias Format.binary64 : Nat) +
      (Format.mantissaBitsWithoutImplicit Format.binary64 : Nat)).toNat = field := by
    show (e + (1023 : Nat) + (52 : Nat)).toNat = field
    omega
  have stored : (BitVec.ofNat 11 field).toNat = field := by
    rw [BitVec.toNat_ofNat, Nat.mod_eq_of_lt (by omega)]
  -- the least exponent is that of numbers without a first digit, the greatest that of infinity
  have not_top : BitVec.ofNat 11 field ≠ -1#11 := by
    intro top
    have value := congrArg BitVec.toNat top
    rw [stored] at value
    simp at value
    omega
  have not_zero : BitVec.ofNat 11 field ≠ 0#11 := by
    intro zero
    have value := congrArg BitVec.toNat zero
    rw [stored] at value
    simp at value
    omega
  have bounded : ¬ 2 ^ 11 ≤ field + 1 := by omega
  have packed : UnpackedFloat.pack Format.binary64 (.finite .positive m e positive) =
      packComponents Format.binary64 .positive (BitVec.ofNat 11 field) (BitVec.ofNat 52 m) := by
    rw [← biased] at bounded ⊢
    exact (if_neg bounded).trans (if_pos log2)
  show UnpackedFloat.unpack Format.binary64 (UnpackedFloat.pack Format.binary64 _) = _
  rw [packed]
  obtain ⟨_, unpacked⟩ := unpack_of_exponent
    (b := packComponents Format.binary64 .positive (BitVec.ofNat 11 field) (BitVec.ofNat 52 m))
    (by rwa [unpackExponent_packComponents]) (by rwa [unpackExponent_packComponents])
  rw [unpacked]
  refine finite_congr ?_ ?_ ?_
  · rw [unpackSign_positive]
    rfl
  · rw [unpackMantissa_packComponents]
    exact toNat_append_mantissa le lt
  · rw [unpackExponent_packComponents]
    show ((BitVec.ofNat 11 field).toNat : Int) - ((1023 : Nat) + (52 : Nat)) = e
    omega

namespace Normal

variable {x y : Float} {m n : Nat} {d e : Int}

theorem isNaN_eq_false (normal : Normal x m e) : x.isNaN = false := by
  obtain ⟨positive, unpacked⟩ := normal.unpack_eq
  show x.toModel.unpack.isNaN = false
  rw [unpacked]
  rfl

/-- Normal numbers are compared by their exponents, and then by their mantissas. -/
theorem lt_iff (normal : Normal x m d) (other : Normal y n e) :
    x < y ↔ d < e ∨ d = e ∧ m < n := by
  obtain ⟨positive, unpacked⟩ := normal.unpack_eq
  obtain ⟨other_positive, other_unpacked⟩ := other.unpack_eq
  show (decide (x.toModel.unpack.lt y.toModel.unpack = true)) = true ↔ _
  rw [unpacked, other_unpacked, decide_eq_true_iff]
  show (some ((compare d e).then (compare m n)) == some .lt) = true ↔ _
  rw [beq_iff_eq, Option.some.injEq, Ordering.then_eq_lt, compare_lt_iff_lt, compare_eq_iff_eq,
    compare_lt_iff_lt]

theorem eq_of_same (normal : Normal x m e) (other : Normal y m e) : x = y := by
  obtain ⟨positive, rfl⟩ := normal.packed
  obtain ⟨other_positive, rfl⟩ := other.packed
  rfl

end Normal

/-! ### Rounding of whole numbers -/

/-- A rounded mantissa of 53 digits that has got one more digit is shifted once more. -/
def carried (r : Nat) (e : Int) : Nat × Int :=
  if r < 2 ^ 53 then (r, e) else (2 ^ 52, e + 1)

theorem shiftToTargetExponent_eq {a : Nat} {e : Int} {s : Nat} (wide : a.log2 = 52 + s)
    (within : -1074 ≤ e + s) :
    shiftToTargetExponent Format.binary64 a e .exact =
      (ExtendedMantissa.ofMantissaAndAccuracy a .exact >>> s, e + s) := by
  have target : Format.binary64.targetExponent (totalExponent a e) = e + s := by
    rw [Format.targetExponent, totalExponent, wide]
    show max (((52 + s : Nat) : Int) + 1 + e - (53 : Nat)) (-1074) = e + s
    omega
  have amount : (e + s - e).toNat = s := by omega
  rw [shiftToTargetExponent, target, shiftToExponent]
  simp only [amount]

theorem roundWithAccuracy_eq {a : Nat} {e d d' : Int} {em em' : ExtendedMantissa}
    (first : shiftToTargetExponent Format.binary64 a e .exact = (em, d))
    (second : shiftToTargetExponent Format.binary64 em.roundedMantissa d .exact = (em', d'))
    (not_zero : em'.mantissa ≠ 0) :
    roundWithAccuracy Format.binary64 .positive a e .exact =
      .finite .positive em'.mantissa d' (Nat.pos_of_ne_zero not_zero) := by
  rw [roundWithAccuracy, first]
  dsimp only
  rw [second]
  exact dif_neg not_zero

/-- A natural of at least 53 digits is rounded to a mantissa of 53 digits, or to the next power of
two. -/
theorem rounded_wide {a s : Nat} (wide : a.log2 = 52 + s) :
    2 ^ 52 ≤ rounded a s ∧ rounded a s ≤ 2 ^ 53 := by
  have some_digit : a ≠ 0 := by
    rintro rfl
    rw [Nat.log2_zero] at wide
    omega
  have lower : 2 ^ 52 ≤ a / 2 ^ s := by
    rw [Nat.le_div_iff_mul_le (Nat.two_pow_pos s), ← Nat.pow_add, ← wide]
    exact Nat.log2_self_le some_digit
  have upper : a / 2 ^ s < 2 ^ 53 := by
    rw [Nat.div_lt_iff_lt_mul (Nat.two_pow_pos s), ← Nat.pow_add]
    exact (Nat.log2_lt some_digit).1 (by omega)
  obtain ⟨cut, added⟩ := rounded_bounds a s
  omega

/-- Rounding a natural of at least 53 digits over a power of two yields a normal number. -/
theorem normal_roundWithAccuracy {a : Nat} {e : Int} {s : Nat} (wide : a.log2 = 52 + s)
    (low : -1074 ≤ e + s) (high : e + s ≤ 970) :
    Normal ⟨.pack (roundWithAccuracy Format.binary64 .positive a e .exact)⟩
      (carried (rounded a s) (e + s)).1 (carried (rounded a s) (e + s)).2 := by
  obtain ⟨lower, upper⟩ := rounded_wide wide
  have first := shiftToTargetExponent_eq wide low
  -- the second shift takes away the digit that rounding may have added
  have second : ∃ em, shiftToTargetExponent Format.binary64 (rounded a s) (e + s) .exact =
      (em, (carried (rounded a s) (e + s)).2) ∧
        em.mantissa = (carried (rounded a s) (e + s)).1 := by
    rw [carried]
    split
    · rename_i fits
      have log2 : (rounded a s).log2 = 52 + 0 := log2_of_bounds lower fits
      rw [shiftToTargetExponent_eq log2 (by omega), Int.natCast_zero, Int.add_zero]
      exact ⟨_, rfl, rfl⟩
    · have same : rounded a s = 2 ^ 53 := by omega
      have log2 : (rounded a s).log2 = 52 + 1 := by rw [same, Nat.log2_two_pow]
      rw [shiftToTargetExponent_eq log2 (by omega)]
      refine ⟨_, rfl, ?_⟩
      rw [mantissa_shiftRight, same]
      rfl
  obtain ⟨em, shifted, mantissa⟩ := second
  have bounds : 2 ^ 52 ≤ em.mantissa ∧ em.mantissa < 2 ^ 53 ∧
      e + s ≤ (carried (rounded a s) (e + s)).2 ∧
      (carried (rounded a s) (e + s)).2 ≤ e + s + 1 := by
    rw [mantissa, carried]
    split <;> simp only <;> omega
  obtain ⟨le_mantissa, mantissa_lt, le_exponent, exponent_le⟩ := bounds
  rw [← mantissa]
  have not_zero : em.mantissa ≠ 0 := by omega
  refine ⟨⟨Nat.pos_of_ne_zero not_zero, ?_⟩, le_mantissa, mantissa_lt, by omega, by omega⟩
  rw [roundWithAccuracy_eq first shifted not_zero]

/-! ### Counts -/

theorem log2_mul_two_pow {n : Nat} (some_digit : 0 < n) (j : Nat) :
    (n * 2 ^ j).log2 = n.log2 + j := by
  refine log2_of_bounds ?_ ?_
  · rw [Nat.pow_add]
    exact Nat.mul_le_mul_right _ (Nat.log2_self_le (Nat.ne_of_gt some_digit))
  · rw [Nat.add_right_comm, Nat.pow_add]
    exact Nat.mul_lt_mul_of_pos_right Nat.lt_log2_self (Nat.two_pow_pos j)

/-- The product of two positive numbers is the product of their mantissas, rounded. -/
theorem mul_finite {spec : Format} {m n : Nat} {d e : Int} {some_digit : 0 < m}
    {other_digit : 0 < n} :
    UnpackedFloat.mul spec (.finite .positive m d some_digit) (.finite .positive n e other_digit) =
      roundWithAccuracy spec .positive (m * n) (d + e) .exact :=
  rfl

theorem mul_eq {x y : Float} {m n : Nat} {d e : Int} (normal : Normal x m d)
    (other : Normal y n e) :
    x.mul y = ⟨.pack (roundWithAccuracy Format.binary64 .positive (m * n) (d + e) .exact)⟩ := by
  obtain ⟨positive, unpacked⟩ := normal.unpack_eq
  obtain ⟨other_positive, other_unpacked⟩ := other.unpack_eq
  show Float.ofModel (.pack (UnpackedFloat.mul _ x.toModel.unpack y.toModel.unpack)) = _
  rw [unpacked, other_unpacked, mul_finite]

theorem normal_one : Normal (Float.ofBits 0x3FF0000000000000) (2 ^ 52) (-52) where
  packed := ⟨by decide, by decide +kernel⟩
  le_mantissa := by decide
  mantissa_lt := by decide
  le_exponent := by decide
  exponent_le := by decide

/-- Before a count of at most 53 digits is rounded, zeros are put behind it. -/
theorem ofNat_eq_roundWithAccuracy {n : Nat} (some_digit : 0 < n) (few : n.log2 ≤ 52) :
    UnpackedFloat.ofNat Format.binary64 n = roundWithAccuracy Format.binary64 .positive
      (n * 2 ^ (52 - n.log2)) (n.log2 - 52) .exact := by
  have target : Format.binary64.targetExponent (totalExponent n 0) = n.log2 - 52 := by
    rw [Format.targetExponent, totalExponent]
    show max ((n.log2 : Int) + 1 + 0 - (53 : Nat)) (-1074) = n.log2 - 52
    omega
  have amount : (0 - ((n.log2 : Int) - 52)).toNat = 52 - n.log2 := by omega
  have exponent : 0 - ((52 - n.log2 : Nat) : Int) = n.log2 - 52 := by omega
  have sign : compare (n : Int) 0 = .gt := compare_gt_iff_gt.2 (by omega)
  rw [UnpackedFloat.ofNat, UnpackedFloat.ofInt, UnpackedFloat.normalize, sign]
  show UnpackedFloat.round Format.binary64 .positive n 0 = _
  rw [UnpackedFloat.round, target]
  simp only [decreaseExponent, amount, exponent, Nat.shiftLeft_eq]

/-- A count of at most 53 digits keeps all of them. -/
theorem normal_toFloat {n : Nat} (some_digit : 0 < n) (fits : n < 2 ^ 53) :
    Normal n.toUInt64.toFloat (n * 2 ^ (52 - n.log2)) (n.log2 - 52) := by
  have few : n.log2 ≤ 52 := Nat.le_of_lt_succ ((Nat.log2_lt (Nat.ne_of_gt some_digit)).2 fits)
  have wide : (n * 2 ^ (52 - n.log2)).log2 = 52 + 0 := by
    rw [log2_mul_two_pow some_digit]
    omega
  have no_more : n * 2 ^ (52 - n.log2) < 2 ^ 53 :=
    (Nat.log2_lt (Nat.mul_ne_zero (Nat.ne_of_gt some_digit) (Nat.two_pow_pos _).ne')).1
      (by omega)
  have value : n.toUInt64.toNat = n := by
    rw [Nat.toUInt64, UInt64.toNat_ofNat', Nat.mod_eq_of_lt (by omega)]
  have kept : carried (rounded (n * 2 ^ (52 - n.log2)) 0) (n.log2 - 52 + (0 : Nat)) =
      (n * 2 ^ (52 - n.log2), (n.log2 : Int) - 52) := by
    rw [Int.natCast_zero, Int.add_zero]
    exact if_pos no_more
  have normal := @normal_roundWithAccuracy _ (n.log2 - 52) 0 wide (by omega) (by omega)
  rw [kept, ← ofNat_eq_roundWithAccuracy some_digit few] at normal
  have packed : n.toUInt64.toFloat = ⟨.pack (UnpackedFloat.ofNat Format.binary64 n)⟩ := by
    show Float.ofModel (.pack (UnpackedFloat.ofNat _ n.toUInt64.toNat)) = _
    rw [value]
  rw [packed]
  exact normal

/-- Before a count of more than 53 digits is rounded, as many zeros as that are put behind it. -/
theorem ofScientific_eq {n : Nat} (some_digit : 0 < n) :
    UnpackedFloat.ofScientific Format.binary64 n 0 =
      roundWithAccuracy Format.binary64 .positive (n * 2 ^ 53) (-53) .exact := by
  have size : (2 : Int) ^ Format.binary64.exponentBits = 2048 := rfl
  rw [UnpackedFloat.ofScientific, dif_neg (Nat.ne_of_gt some_digit), size, if_neg (by decide),
    if_neg (by omega), if_pos (Int.le_refl 0), mul_finite, Nat.shiftLeft_eq]
  have one : 10 ^ (0 : Int).toNat = 1 := rfl
  rw [one, Nat.mul_one]
  rfl

/-- A positive count becomes a normal number: the count, with zeros behind it, is rounded to 53
digits, in one way for all counts of as many digits. -/
theorem exists_normal_ofNat (k : Nat) (small : k < 64) :
    ∃ zeros s, ∀ n, 0 < n → n.log2 = k →
      (n * 2 ^ zeros).log2 = 52 + s ∧
      Normal (Float.ofNat n) (carried (rounded (n * 2 ^ zeros) s) (k - 52)).1
        (carried (rounded (n * 2 ^ zeros) s) (k - 52)).2 := by
  by_cases few : k ≤ 52
  · -- a product with one is rounded once more
    refine ⟨52 - k + 52, 52, fun n some_digit log2 => ?_⟩
    have fits : n < 2 ^ 53 := (Nat.log2_lt (Nat.ne_of_gt some_digit)).1 (by omega)
    have wide : (n * 2 ^ (52 - k + 52)).log2 = 52 + 52 := by
      rw [log2_mul_two_pow some_digit]
      omega
    have product : Float.ofNat n = n.toUInt64.toFloat.mul (Float.ofBits 0x3FF0000000000000) := by
      unfold Float.ofNat
      show Float.ofScientific n false 0 = _
      unfold Float.ofScientific
      rw [dif_pos ⟨fits, by decide⟩]
      rfl
    have normal := @normal_roundWithAccuracy _ ((k : Int) - 52 + -52) 52 wide (by omega) (by omega)
    refine ⟨wide, ?_⟩
    rw [product, mul_eq (normal_toFloat some_digit fits) normal_one, log2, Nat.mul_assoc,
      ← Nat.pow_add]
    have exponent : (k : Int) - 52 + -52 + (52 : Nat) = k - 52 := by omega
    rw [exponent] at normal
    exact normal
  · refine ⟨53, k + 1, fun n some_digit log2 => ?_⟩
    have many : ¬ n < 2 ^ 53 := fun fits =>
      few (log2 ▸ Nat.le_of_lt_succ ((Nat.log2_lt (Nat.ne_of_gt some_digit)).2 fits))
    have wide : (n * 2 ^ 53).log2 = 52 + (k + 1) := by
      rw [log2_mul_two_pow some_digit]
      omega
    have scaled : Float.ofNat n = ⟨.pack (roundWithAccuracy Format.binary64 .positive
        (n * 2 ^ 53) (-53) .exact)⟩ := by
      rw [← ofScientific_eq some_digit]
      unfold Float.ofNat
      show Float.ofScientific n false 0 = _
      unfold Float.ofScientific
      rw [dif_neg fun fast => many fast.1]
      rfl
    have normal := @normal_roundWithAccuracy _ (-53) (k + 1) wide (by omega) (by omega)
    refine ⟨wide, ?_⟩
    have exponent : (-53 : Int) + (k + 1 : Nat) = k - 52 := by omega
    rw [exponent] at normal
    rw [scaled]
    exact normal

/-! ### The order of counts -/

/-- Carrying keeps the order of exponents, and of mantissas that have the same exponent. -/
theorem carried_le {r r' : Nat} {d e : Int} (le : 2 ^ 52 ≤ r) (le' : 2 ^ 52 ≤ r')
    (le_top : r ≤ 2 ^ 53) (le_top' : r' ≤ 2 ^ 53) (before : d < e ∨ d = e ∧ r ≤ r') :
    (carried r d).2 < (carried r' e).2 ∨
      (carried r d).2 = (carried r' e).2 ∧ (carried r d).1 ≤ (carried r' e).1 := by
  unfold carried
  split <;> split <;> simp only <;> omega

theorem Normal.ordered {x y : Float} {m n : Nat} {d e : Int} (normal : Normal x m d)
    (other : Normal y n e) (before : d < e ∨ d = e ∧ m ≤ n) :
    ¬ y < x ∧ (¬ x < y → x = y) := by
  rw [normal.lt_iff other, other.lt_iff normal]
  refine ⟨by omega, fun not_less => ?_⟩
  obtain ⟨rfl, rfl⟩ : d = e ∧ m = n := by omega
  exact normal.eq_of_same other

/-- Zero comes before every normal number. -/
theorem Normal.pos {x : Float} {m : Nat} {e : Int} (normal : Normal x m e) :
    Float.ofNat 0 < x ∧ ¬ x < Float.ofNat 0 := by
  obtain ⟨positive, unpacked⟩ := normal.unpack_eq
  have zero : (Float.ofNat 0).toModel.unpack = .zero .positive := by
    have packed : Float.ofNat 0 = ⟨.pack (.zero .positive)⟩ := by decide +kernel
    rw [packed]
    rfl
  constructor
  · show decide ((Float.ofNat 0).toModel.unpack.lt x.toModel.unpack = true) = true
    rw [zero, unpacked]
    rfl
  · show ¬ decide (x.toModel.unpack.lt (Float.ofNat 0).toModel.unpack = true) = true
    rw [zero, unpacked]
    exact Bool.false_ne_true

/-- Counts become floating-point numbers in order. -/
theorem ofNat_ordered {m n : Nat} (le : m ≤ n) (small : n < Scalar.countBound) :
    ¬ Float.ofNat n < Float.ofNat m ∧
      (¬ Float.ofNat m < Float.ofNat n → Float.ofNat m = Float.ofNat n) := by
  have digits_lt {k : Nat} (positive : 0 < k) (le : k ≤ n) : k.log2 < 64 :=
    (Nat.log2_lt (Nat.ne_of_gt positive)).2 (Nat.lt_of_le_of_lt le small)
  rcases Nat.eq_zero_or_pos m with rfl | m_pos
  · rcases Nat.eq_zero_or_pos n with rfl | n_pos
    · exact ⟨by decide +kernel, fun _ => rfl⟩
    · obtain ⟨zeros, s, rounds⟩ := exists_normal_ofNat n.log2 (digits_lt n_pos le_rfl)
      obtain ⟨above, not_below⟩ := (rounds n n_pos rfl).2.pos
      exact ⟨not_below, fun not_above => absurd above not_above⟩
  have n_pos : 0 < n := Nat.lt_of_lt_of_le m_pos le
  obtain ⟨zeros, s, rounds⟩ := exists_normal_ofNat m.log2 (digits_lt m_pos le)
  obtain ⟨wide, normal⟩ := rounds m m_pos rfl
  obtain ⟨lower, upper⟩ := rounded_wide wide
  by_cases same_digits : n.log2 = m.log2
  · -- counts of as many digits are rounded in the same way
    obtain ⟨wide', normal'⟩ := rounds n n_pos same_digits
    obtain ⟨lower', upper'⟩ := rounded_wide wide'
    have mantissas := rounded_mono (Nat.mul_le_mul_right (2 ^ zeros) le) s
    exact normal.ordered normal'
      (carried_le lower lower' upper upper' (.inr ⟨rfl, mantissas⟩))
  · obtain ⟨zeros', s', rounds'⟩ := exists_normal_ofNat n.log2 (digits_lt n_pos le_rfl)
    obtain ⟨wide', normal'⟩ := rounds' n n_pos rfl
    obtain ⟨lower', upper'⟩ := rounded_wide wide'
    have more_digits : m.log2 ≤ n.log2 := (Nat.le_log2 (Nat.ne_of_gt n_pos)).2
      (Nat.le_trans (Nat.log2_self_le (Nat.ne_of_gt m_pos)) le)
    exact normal.ordered normal'
      (carried_le lower lower' upper upper' (.inl (by omega)))

theorem isNaN_ofNat {n : Nat} (small : n < Scalar.countBound) : (Float.ofNat n).isNaN = false := by
  rcases Nat.eq_zero_or_pos n with rfl | positive
  · decide +kernel
  · have digits_lt : n.log2 < 64 := (Nat.log2_lt (Nat.ne_of_gt positive)).2 small
    obtain ⟨zeros, s, rounds⟩ := exists_normal_ofNat n.log2 digits_lt
    exact (rounds n positive rfl).2.isNaN_eq_false

/-- The greatest number is normal, and its exponent is greater than that of any count. -/
theorem normal_greatest :
    Normal (Scalar.greatest : Number).value (2 ^ 53 - 1) 971 where
  packed := ⟨by decide, by decide +kernel⟩
  le_mantissa := by decide
  mantissa_lt := by decide
  le_exponent := by decide
  exponent_le := by decide

theorem ofNat_lt_greatest {n : Nat} (small : n < Scalar.countBound) :
    Float.ofNat n < (Scalar.greatest : Number).value := by
  rcases Nat.eq_zero_or_pos n with rfl | positive
  · exact normal_greatest.pos.1
  · have digits_lt : n.log2 < 64 := (Nat.log2_lt (Nat.ne_of_gt positive)).2 small
    obtain ⟨zeros, s, rounds⟩ := exists_normal_ofNat n.log2 digits_lt
    obtain ⟨wide, normal⟩ := rounds n positive rfl
    rw [normal.lt_iff normal_greatest]
    unfold carried
    split <;> simp only <;> omega

end RankedRetrieval.Rounding

namespace RankedRetrieval

open Rounding

/-! ### Comparing numbers -/

theorem Number.greater_of_numbers {x y : Number} (x_number : x.isNaN = false)
    (y_number : y.isNaN = false) :
    Number.greater x y = if x.value < y.value then y else x := by
  rw [Number.greater, x_number, y_number]
  rfl

theorem Number.lesser_of_numbers {x y : Number} (x_number : x.isNaN = false)
    (y_number : y.isNaN = false) :
    Number.lesser x y = if y.value < x.value then y else x := by
  rw [Number.lesser, x_number, y_number]
  rfl

theorem Number.isNaN_count {n : Nat} (small : n < Scalar.countBound) :
    (Scalar.ofNat n : Number).isNaN = false := by
  show (Float.ofNat n).isNaN = false
  exact isNaN_ofNat small

theorem Number.value_count (n : Nat) : (Scalar.ofNat n : Number).value = Float.ofNat n := rfl

/-- Counts that are not in order as numbers are the same number. -/
theorem Number.count_eq {m n : Nat} (le : m ≤ n) (small : n < Scalar.countBound)
    (not_less : ¬ Float.ofNat m < Float.ofNat n) : (Scalar.ofNat m : Number) = Scalar.ofNat n :=
  congrArg Number.ofFloat ((ofNat_ordered le small).2 not_less)

/-- Floating-point numbers compare counts as naturals. -/
instance numberComparesCounts : Scalar.ComparesCounts Number where
  greater_ofNat m n m_small n_small := by
    show Number.greater (Scalar.ofNat m) (Scalar.ofNat n) = _
    rw [Number.greater_of_numbers (Number.isNaN_count m_small) (Number.isNaN_count n_small),
      Number.value_count, Number.value_count]
    rcases Nat.le_total m n with le | le
    · rw [max_eq_right le]
      split
      · rfl
      · rename_i not_less
        exact Number.count_eq le n_small not_less
    · rw [max_eq_left le, if_neg (ofNat_ordered le m_small).1]
  lesser_ofNat m n m_small n_small := by
    show Number.lesser (Scalar.ofNat m) (Scalar.ofNat n) = _
    rw [Number.lesser_of_numbers (Number.isNaN_count m_small) (Number.isNaN_count n_small),
      Number.value_count, Number.value_count]
    rcases Nat.le_total m n with le | le
    · rw [min_eq_left le, if_neg (ofNat_ordered le n_small).1]
    · rw [min_eq_right le]
      split
      · rfl
      · rename_i not_less
        exact (Number.count_eq le m_small not_less).symm
  lesser_greatest n small := by
    show Number.lesser Scalar.greatest (Scalar.ofNat n) = _
    rw [Number.lesser_of_numbers normal_greatest.isNaN_eq_false (Number.isNaN_count small)]
    exact if_pos (ofNat_lt_greatest small)

end RankedRetrieval
