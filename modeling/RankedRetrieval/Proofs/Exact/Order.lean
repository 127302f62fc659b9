import RankedRetrieval.Proofs.Exact.Numbers

/-!
# The order of exact numbers

Sums, products and powers of numbers that are not negative grow with these numbers.

## Main Definitions

* `ExactFunctions.PowLaws` — powers that grow with their bases and whose exponents may be added
* `ExactNumber.Below` — two numbers that are not negative, in their order

## Main Results

* `ExactNumber.Below.total`, `ExactNumber.Below.product` — totals and products grow place by place
* `ExactNumber.product_map_pow` — powers of one base are multiplied by adding the exponents

## Design Notes

What is not a number is neither below a number nor above one.  So a number that is below another one
exists, and what grows with a number is a number, too.
-/

namespace RankedRetrieval

namespace ExactFunctions

/-- The laws of powers whose bases and exponents are not negative. -/
structure PowLaws (F : ExactFunctions) : Prop where
  /-- Powers exist, and grow with the base. -/
  mono : ∀ x y a, 0 ≤ x → x ≤ y → 0 ≤ a → ∃ u v, F.pow x a = some u ∧ F.pow y a = some v ∧ u ≤ v
  /-- The first power of a number is the number itself. -/
  one : ∀ x, 0 ≤ x → F.pow x 1 = some x
  /-- Exponents of one base may be added. -/
  add : ∀ x a b, 0 ≤ x → 0 ≤ a → 0 ≤ b →
    F.pow x (a + b) = Option.map₂ (· * ·) (F.pow x a) (F.pow x b)

variable {F : ExactFunctions}

/-- A power is the square of the power to half of the exponent, so it is not negative. -/
theorem PowLaws.powExists (laws : F.PowLaws) : F.PowExists := by
  intro x a nonneg exponent
  obtain ⟨u, -, power, -, -⟩ := laws.mono x x (a / 2) nonneg le_rfl (by positivity)
  have square := laws.add x (a / 2) (a / 2) nonneg (by positivity) (by positivity)
  rw [add_halves, power] at square
  exact ⟨u * u, mul_self_nonneg u, square⟩

theorem powLaws_usual : usual.PowLaws where
  mono x y a nonneg le exponent :=
    ⟨x ^ a, y ^ a, rfl, rfl, Real.rpow_le_rpow nonneg le exponent⟩
  one x _ := congrArg some (Real.rpow_one x)
  add x a b nonneg first second := by
    show some (x ^ (a + b)) = some (x ^ a * x ^ b)
    rw [Real.rpow_add_of_nonneg nonneg first second]

end ExactFunctions

namespace ExactNumber

variable {F : ExactFunctions} {x y z u v : ExactNumber F} {xs ys : List (ExactNumber F)}

/-- Two numbers that are not negative, the first of which is at most the second. -/
def Below (x y : ExactNumber F) : Prop :=
  ∃ a b, 0 ≤ a ∧ a ≤ b ∧ x = number a ∧ y = number b

theorem Nonneg.below_self (nonneg : x.Nonneg) : x.Below x := by
  obtain ⟨a, a_nonneg, rfl⟩ := nonneg
  exact ⟨a, a, a_nonneg, le_rfl, rfl, rfl⟩

theorem Nonneg.below_total (first : x.Nonneg) (second : y.Nonneg) : x.Below y ∨ y.Below x := by
  obtain ⟨a, a_nonneg, rfl⟩ := first
  obtain ⟨b, b_nonneg, rfl⟩ := second
  rcases le_total a b with le | le
  · exact .inl ⟨a, b, a_nonneg, le, rfl, rfl⟩
  · exact .inr ⟨b, a, b_nonneg, le, rfl, rfl⟩

namespace Below

theorem left (below : x.Below y) : x.Nonneg := by
  obtain ⟨a, -, nonneg, -, rfl, -⟩ := below
  exact ⟨a, nonneg, rfl⟩

theorem right (below : x.Below y) : y.Nonneg := by
  obtain ⟨a, b, nonneg, le, -, rfl⟩ := below
  exact ⟨b, nonneg.trans le, rfl⟩

theorem atMost (below : x.Below y) : Scalar.atMost x y = true := by
  obtain ⟨a, b, -, le, rfl, rfl⟩ := below
  exact (atMost_number a b).2 le

theorem trans (first : x.Below y) (second : y.Below z) : x.Below z := by
  obtain ⟨a, b, nonneg, le, rfl, rfl⟩ := first
  obtain ⟨c, d, -, other_le, same, rfl⟩ := second
  obtain rfl := number.inj same
  exact ⟨a, d, nonneg, le.trans other_le, rfl, rfl⟩

theorem ofNat {m n : Nat} (le : m ≤ n) : (Scalar.ofNat m : ExactNumber F).Below (Scalar.ofNat n) :=
  ⟨m, n, Nat.cast_nonneg m, Nat.cast_le.2 le, rfl, rfl⟩

theorem add (first : x.Below y) (second : u.Below v) : (x + u).Below (y + v) := by
  obtain ⟨a, b, nonneg, le, rfl, rfl⟩ := first
  obtain ⟨c, d, other_nonneg, other_le, rfl, rfl⟩ := second
  exact ⟨a + c, b + d, add_nonneg nonneg other_nonneg, add_le_add le other_le, rfl, rfl⟩

theorem mul (first : x.Below y) (second : u.Below v) : (x * u).Below (y * v) := by
  obtain ⟨a, b, nonneg, le, rfl, rfl⟩ := first
  obtain ⟨c, d, other_nonneg, other_le, rfl, rfl⟩ := second
  exact ⟨a * c, b * d, mul_nonneg nonneg other_nonneg,
    mul_le_mul le other_le other_nonneg (nonneg.trans le), rfl, rfl⟩

theorem div_right (below : x.Below y) (positive : z.Positive) : (x / z).Below (y / z) := by
  obtain ⟨a, b, nonneg, le, rfl, rfl⟩ := below
  obtain ⟨c, some_c, rfl⟩ := positive
  exact ⟨a / c, b / c, div_nonneg nonneg some_c.le, div_le_div_of_nonneg_right le some_c.le,
    number_div a some_c.ne', number_div b some_c.ne'⟩

/-- Powers grow with the base. -/
theorem pow (laws : F.PowLaws) (below : x.Below y) (exponent : z.Nonneg) :
    (Scalar.pow x z).Below (Scalar.pow y z) := by
  have power_nonneg : (Scalar.pow x z).Nonneg := below.left.pow laws.powExists exponent
  obtain ⟨a, b, nonneg, le, rfl, rfl⟩ := below
  obtain ⟨c, c_nonneg, rfl⟩ := exponent
  obtain ⟨s, t, first, second, powers_le⟩ := laws.mono a b c nonneg le c_nonneg
  obtain ⟨r, r_nonneg, same⟩ := power_nonneg
  rw [pow_number, first] at same
  obtain rfl : s = r := number.inj same
  refine ⟨s, t, r_nonneg, powers_le, ?_, ?_⟩
  · rw [pow_number, first]
    rfl
  · rw [pow_number, second]
    rfl

/-- Totals grow place by place. -/
theorem total (below : List.Forall₂ Below xs ys) :
    (Scalar.total xs).Below (Scalar.total ys) := by
  induction below with
  | nil => exact (nonneg_ofNat 0).below_self
  | cons first _ ih =>
    rw [Scalar.total_cons, Scalar.total_cons]
    exact first.add ih

/-- Products grow place by place. -/
theorem product (below : List.Forall₂ Below xs ys) :
    (Scalar.product xs).Below (Scalar.product ys) := by
  induction below with
  | nil => exact (nonneg_ofNat 1).below_self
  | cons first _ ih =>
    rw [Scalar.product_cons, Scalar.product_cons]
    exact first.mul ih

end Below

/-! ### Totals and products -/

theorem mul_ofNat_one (number : x.IsNumber) : x * Scalar.ofNat 1 = x := by
  obtain ⟨a, rfl⟩ := number
  rw [ofNat_eq, number_mul, Nat.cast_one, mul_one]

theorem ofNat_one_mul (number : x.IsNumber) : Scalar.ofNat 1 * x = x := by
  rw [Scalar.ExactArithmetic.mul_comm, mul_ofNat_one number]

theorem Positive.div_self (positive : x.Positive) : x / x = Scalar.ofNat 1 := by
  obtain ⟨a, some_a, rfl⟩ := positive
  rw [number_div a some_a.ne', div_self some_a.ne', ofNat_eq, Nat.cast_one]

/-- A common divisor may be taken out of a total. -/
theorem total_map_div (positive : z.Positive) (xs : List (ExactNumber F)) :
    Scalar.total (xs.map fun x => x / z) = Scalar.total xs / z := by
  induction xs with
  | nil =>
    obtain ⟨c, some_c, rfl⟩ := positive
    rw [List.map_nil, Scalar.total_nil, ofNat_eq, number_div _ some_c.ne', Nat.cast_zero,
      zero_div]
  | cons x xs ih => rw [List.map_cons, Scalar.total_cons, Scalar.total_cons, ih, add_div_eq]

/-- A common factor may be taken out of a total. -/
theorem total_map_mul (number : z.IsNumber) (xs : List (ExactNumber F)) :
    Scalar.total (xs.map fun x => x * z) = Scalar.total xs * z := by
  induction xs with
  | nil =>
    obtain ⟨c, rfl⟩ := number
    rw [List.map_nil, Scalar.total_nil, ofNat_eq, number_mul, Nat.cast_zero, zero_mul]
  | cons x xs ih => rw [List.map_cons, Scalar.total_cons, Scalar.total_cons, ih, add_mul_eq]

theorem pow_ofNat_one (laws : F.PowLaws) (base : x.Nonneg) : Scalar.pow x (Scalar.ofNat 1) = x := by
  obtain ⟨a, nonneg, rfl⟩ := base
  rw [ofNat_eq, pow_number, Nat.cast_one, laws.one a nonneg]
  rfl

theorem pow_add_of_nonneg (laws : F.PowLaws) (base : x.Nonneg) (first : y.Nonneg)
    (second : z.Nonneg) : Scalar.pow x (y + z) = Scalar.pow x y * Scalar.pow x z := by
  obtain ⟨a, nonneg, rfl⟩ := base
  obtain ⟨b, b_nonneg, rfl⟩ := first
  obtain ⟨c, c_nonneg, rfl⟩ := second
  rw [number_add, pow_number, pow_number, pow_number, laws.add a b c nonneg b_nonneg c_nonneg]
  cases F.pow a b <;> cases F.pow a c <;> rfl

/-- Powers of one base are multiplied by adding the exponents.  The power to zero, which a product
of no powers would have to be, need not be one. -/
theorem product_map_pow (laws : F.PowLaws) (base : x.Nonneg) (some_y : ys ≠ [])
    (nonneg : ∀ y ∈ ys, y.Nonneg) :
    Scalar.product (ys.map fun y => Scalar.pow x y) = Scalar.pow x (Scalar.total ys) := by
  induction ys with
  | nil => exact absurd rfl some_y
  | cons y ys ih =>
    obtain ⟨first, others⟩ := List.forall_mem_cons.1 nonneg
    cases ys with
    | nil =>
      have power : (Scalar.pow x y).Nonneg := base.pow laws.powExists first
      rw [List.map_singleton, Scalar.product_cons, Scalar.total_cons, Scalar.product_nil,
        Scalar.total_nil, mul_ofNat_one power.isNumber, Scalar.ExactSums.add_comm,
        Scalar.ExactSums.zero_add]
    | cons z ys =>
      rw [List.map_cons, Scalar.product_cons, ih (List.cons_ne_nil z ys) others,
        Scalar.total_cons y,
        pow_add_of_nonneg laws base first (Nonneg.total others)]

/-! ### Extremes -/

/-- In a total order, numbers that are not negative have a first one. -/
theorem exists_extreme {R : ExactNumber F → ExactNumber F → Prop}
    (total : ∀ x y, x.Nonneg → y.Nonneg → R x y ∨ R y x)
    (trans : ∀ x y z, R x y → R y z → R x z) (some_x : xs ≠ []) (nonneg : ∀ x ∈ xs, x.Nonneg) :
    ∃ first ∈ xs, ∀ x ∈ xs, R first x := by
  induction xs with
  | nil => exact absurd rfl some_x
  | cons x xs ih =>
    obtain ⟨x_nonneg, others⟩ := List.forall_mem_cons.1 nonneg
    have refl : R x x := or_self_iff.1 (total x x x_nonneg x_nonneg)
    by_cases none : xs = []
    · subst none
      exact ⟨x, List.mem_cons_self, by simpa using refl⟩
    obtain ⟨first, member, before⟩ := ih none others
    rcases total x first x_nonneg (others first member) with earlier | later
    · refine ⟨x, List.mem_cons_self, List.forall_mem_cons.2 ⟨refl, ?_⟩⟩
      intro y hy
      exact trans x first y earlier (before y hy)
    · exact ⟨first, List.mem_cons_of_mem x member, List.forall_mem_cons.2 ⟨later, before⟩⟩

/-- Numbers that are not negative have a least one. -/
theorem exists_least (some_x : xs ≠ []) (nonneg : ∀ x ∈ xs, x.Nonneg) :
    ∃ low ∈ xs, ∀ x ∈ xs, low.Below x :=
  exists_extreme (fun _ _ first second => first.below_total second)
    (fun _ _ _ first second => first.trans second) some_x nonneg

/-- Numbers that are not negative have a greatest one. -/
theorem exists_greatest (some_x : xs ≠ []) (nonneg : ∀ x ∈ xs, x.Nonneg) :
    ∃ high ∈ xs, ∀ x ∈ xs, x.Below high :=
  exists_extreme (R := fun x y => y.Below x) (fun _ _ first second => second.below_total first)
    (fun _ _ _ first second => second.trans first) some_x nonneg

end ExactNumber

end RankedRetrieval
