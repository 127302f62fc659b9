import RankedRetrieval.Proofs.Exact.Reals

/-!
# Exact numbers

Real numbers together with what is not a number.  A division by zero, and a logarithm or a power
that does not exist, are not a number, and no sum, product, quotient or power of them is one.

## Main Definitions

* `ExactFunctions` — a logarithm and a power, which need not exist everywhere
* `ExactNumber` — a real number, or what is not a number
* `ExactNumber.IsNumber`, `ExactNumber.Nonneg`, `ExactNumber.Positive` — numbers, those that are not
  negative, and those that are positive
* `ExactNumber.NotNegative` — what is no negative number

## Main Results

* `ExactNumber.isNumber_div_iff` — a quotient is a number when nothing is divided by zero
* `ExactNumber.isNumber_total_iff` — a total is a number when all summands are
* `ExactNumber.Nonneg.div`, `ExactNumber.Nonneg.pow` — what keeps numbers from being negative
* `ExactNumber.pow_add_of_positive` — powers of one base whose exponents are positive

## Design Notes

**The program itself is run on exact numbers.**  All formulas are generic, so what is divided by
zero on the way to a score is not a number there either.  Only a choice between two numbers hides
this: as with floating-point numbers, what is not a number gives way in it.

**The logarithm and the power are any functions.**  What a proof needs of them is a hypothesis on
`ExactFunctions`.
-/

namespace RankedRetrieval

/-- A logarithm and a power, which need not exist everywhere. -/
structure ExactFunctions where
  /-- The logarithm of a number, if it exists. -/
  ln : ℝ → Option ℝ
  /-- The power of a base to an exponent, if it exists. -/
  pow : ℝ → ℝ → Option ℝ

namespace ExactFunctions

/-- Positive numbers have a logarithm. -/
def LogExists (F : ExactFunctions) : Prop :=
  ∀ x, 0 < x → ∃ y, F.ln x = some y

/-- Powers of numbers that are not negative to such exponents exist and are not negative. -/
def PowExists (F : ExactFunctions) : Prop :=
  ∀ x y, 0 ≤ x → 0 ≤ y → ∃ z, 0 ≤ z ∧ F.pow x y = some z

/-- Positive exponents of one base that is not negative may be added. -/
def PowAdds (F : ExactFunctions) : Prop :=
  ∀ x y z, 0 ≤ x → 0 < y → 0 < z →
    F.pow x (y + z) = Option.map₂ (· * ·) (F.pow x y) (F.pow x z)

/-- The natural logarithm of positive numbers, and the power of real numbers. -/
noncomputable def usual : ExactFunctions where
  ln x := if 0 < x then some (Real.log x) else none
  pow x y := some (x ^ y)

theorem logExists_usual : usual.LogExists := fun x positive => ⟨Real.log x, if_pos positive⟩

theorem powExists_usual : usual.PowExists := fun _ y nonneg _ =>
  ⟨_, Real.rpow_nonneg nonneg y, rfl⟩

theorem powAdds_usual : usual.PowAdds := by
  intro x y z nonneg some_y some_z
  show some (x ^ (y + z)) = some (x ^ y * x ^ z)
  rw [Real.rpow_add_of_nonneg nonneg some_y.le some_z.le]

end ExactFunctions

/-- A real number, or what is not a number. -/
inductive ExactNumber (F : ExactFunctions) where
  /-- A real number. -/
  | number (x : ℝ)
  /-- What is not a number. -/
  | notANumber

namespace ExactNumber

variable {F : ExactFunctions}

/-! ### Arithmetic -/

/-- A result that need not exist. -/
def ofOption : Option ℝ → ExactNumber F
  | some x => number x
  | none => notANumber

/-- An operation on numbers, for exact numbers. -/
def lift (f : ℝ → ℝ → Option ℝ) : ExactNumber F → ExactNumber F → ExactNumber F
  | number x, number y => ofOption (f x y)
  | _, _ => notANumber

/-- A choice between numbers; what is not a number gives way. -/
def choose (g : ℝ → ℝ → ℝ) : ExactNumber F → ExactNumber F → ExactNumber F
  | number x, number y => number (g x y)
  | notANumber, y => y
  | x, notANumber => x

/-- A comparison of numbers; it fails for what is not a number. -/
def compare (r : ℝ → ℝ → Bool) : ExactNumber F → ExactNumber F → Bool
  | number x, number y => r x y
  | _, _ => false

instance exactAdd : Add (ExactNumber F) := ⟨lift fun x y => some (x + y)⟩

noncomputable instance exactSub : Sub (ExactNumber F) := ⟨lift fun x y => some (x - y)⟩

instance exactMul : Mul (ExactNumber F) := ⟨lift fun x y => some (x * y)⟩

noncomputable instance exactDiv : Div (ExactNumber F) :=
  ⟨lift fun x y => if y = 0 then none else some (x / y)⟩

instance exactNatCast : NatCast (ExactNumber F) := ⟨fun n => number n⟩

noncomputable instance exactOfScientific : OfScientific (ExactNumber F) :=
  ⟨fun mantissa small exponent => number (OfScientific.ofScientific mantissa small exponent)⟩

noncomputable instance exactScalar : Scalar (ExactNumber F) where
  emptySum := number 0
  ln
    | number x => ofOption (F.ln x)
    | notANumber => notANumber
  pow := lift F.pow
  less := compare fun x y => decide (x < y)
  atMost := compare fun x y => decide (x ≤ y)
  greater := choose max
  lesser := choose min
  greatest := number Scalar.greatest
  ranksBelow
    | number x, number y => decide (x ≤ y)
    | number _, notANumber => false
    | notANumber, _ => true

/-- Reads what floating-point numbers are read from.  Infinities are not real numbers. -/
noncomputable def read (text : String) : Except NumeralError (ExactNumber F) :=
  (Decimal.readNumber text).map fun _ => ofOption (Decimal.readReal text).toOption

noncomputable instance exactNumeral : Numeral (ExactNumber F) where
  text
    | number x => Decimal.fixedReal 17 x
    | notANumber => "NaN"
  fixed
    | places, number x => Decimal.fixedReal places x
    | _, notANumber => "NaN"
  read := read

/-- A decimal is read as the real number that it stands for. -/
theorem read_of_literal {text : String} {l : Decimal.Literal} (some_char : text.toList ≠ [])
    (readable : (Decimal.readNumber text).isOk = true)
    (literal : Decimal.readLiteral? (Decimal.splitSign text.toList).1
      (Decimal.splitSign text.toList).2 = some l) :
    (Numeral.read text : Except NumeralError (ExactNumber F)) = .ok (number l.toReal) := by
  have real : Decimal.readReal text = .ok l.toReal := by
    rw [Decimal.readReal]
    split
    · contradiction
    · dsimp only
      rw [literal]
  show read text = _
  rw [read, real]
  cases found : Decimal.readNumber text with
  | error e => simp [found, Except.isOk, Except.toBool] at readable
  | ok x => rfl

section Operations

variable (x y : ℝ) (z : ExactNumber F)

@[simp]
theorem number_add : (number x + number y : ExactNumber F) = number (x + y) := rfl

@[simp]
theorem number_sub : (number x - number y : ExactNumber F) = number (x - y) := rfl

@[simp]
theorem number_mul : (number x * number y : ExactNumber F) = number (x * y) := rfl

theorem number_div {y : ℝ} (some_y : y ≠ 0) :
    (number x / number y : ExactNumber F) = number (x / y) :=
  congrArg ofOption (if_neg some_y)

theorem div_zero : (z / number 0 : ExactNumber F) = notANumber := by
  cases z with
  | number x => exact congrArg ofOption (if_pos rfl)
  | notANumber => rfl

@[simp]
theorem ofNat_eq (n : Nat) : (Scalar.ofNat n : ExactNumber F) = number n := rfl

@[simp]
theorem half_eq : (0.5 : ExactNumber F) = number (1 / 2) := by
  have half : (0.5 : ℝ) = 1 / 2 := by norm_num
  exact congrArg number half

@[simp]
theorem emptySum_eq : (Scalar.emptySum : ExactNumber F) = number 0 := rfl

@[simp]
theorem greater_number :
    (Scalar.greater (number x) (number y) : ExactNumber F) = number (max x y) := rfl

@[simp]
theorem pow_number : (Scalar.pow (number x) (number y) : ExactNumber F) = ofOption (F.pow x y) :=
  rfl

@[simp]
theorem ln_number : (Scalar.ln (number x) : ExactNumber F) = ofOption (F.ln x) := rfl

theorem ln_usual {x : ℝ} (positive : 0 < x) :
    (Scalar.ln (number x) : ExactNumber .usual) = number (Real.log x) :=
  congrArg ofOption (if_pos positive)

theorem less_number : Scalar.less (number x : ExactNumber F) (number y) = true ↔ x < y :=
  decide_eq_true_iff

theorem atMost_number : Scalar.atMost (number x : ExactNumber F) (number y) = true ↔ x ≤ y :=
  decide_eq_true_iff

@[simp]
theorem notANumber_lift (f : ℝ → ℝ → Option ℝ) : lift f notANumber z = notANumber := by
  cases z <;> rfl

@[simp]
theorem lift_notANumber (f : ℝ → ℝ → Option ℝ) : lift f z notANumber = notANumber := by
  cases z <;> rfl

end Operations

/-! ### Laws -/

section Laws

variable {g : ℝ → ℝ → ℝ} (x y z : ExactNumber F)

theorem lift_comm (comm : ∀ a b, g a b = g b a) :
    lift (fun a b => some (g a b)) x y = lift (fun a b => some (g a b)) y x := by
  cases x with
  | notANumber => rw [notANumber_lift, lift_notANumber]
  | number a =>
    cases y with
    | notANumber => rw [notANumber_lift, lift_notANumber]
    | number b => exact congrArg number (comm a b)

theorem lift_assoc (assoc : ∀ a b c, g (g a b) c = g a (g b c)) :
    lift (fun a b => some (g a b)) (lift (fun a b => some (g a b)) x y) z =
      lift (fun a b => some (g a b)) x (lift (fun a b => some (g a b)) y z) := by
  cases x with
  | notANumber => simp only [notANumber_lift]
  | number a =>
    cases y with
    | notANumber => simp only [lift_notANumber, notANumber_lift]
    | number b =>
      cases z with
      | notANumber => simp only [lift_notANumber]
      | number c => exact congrArg number (assoc a b c)

theorem choose_comm (comm : ∀ a b, g a b = g b a) : choose g x y = choose g y x := by
  cases x <;> cases y <;> first | rfl | exact congrArg number (comm _ _)

theorem choose_assoc (assoc : ∀ a b c, g (g a b) c = g a (g b c)) :
    choose g (choose g x y) z = choose g x (choose g y z) := by
  cases x <;> cases y <;> cases z <;> first | rfl | exact congrArg number (assoc _ _ _)

theorem choose_self (idem : ∀ a, g a a = a) : choose g x x = x := by
  cases x with
  | number a => exact congrArg number (idem a)
  | notANumber => rfl

instance lesser_commutative : Std.Commutative (Scalar.lesser : ExactNumber F → _ → _) :=
  ⟨fun x y => choose_comm x y min_comm⟩

instance lesser_associative : Std.Associative (Scalar.lesser : ExactNumber F → _ → _) :=
  ⟨fun x y z => choose_assoc x y z min_assoc⟩

theorem lesser_self : Scalar.lesser x x = x :=
  choose_self x min_self

instance exactSums_exactNumber : Scalar.ExactSums (ExactNumber F) where
  add_comm x y := lift_comm x y add_comm
  add_assoc x y z := lift_assoc x y z add_assoc
  zero_add x := by
    cases x with
    | number a =>
      rw [ofNat_eq, number_add, Nat.cast_zero, zero_add]
    | notANumber => rfl
  emptySum_eq := by
    rw [ofNat_eq, Nat.cast_zero]
    rfl

instance exactArithmetic_exactNumber : Scalar.ExactArithmetic (ExactNumber F) where
  mul_comm x y := lift_comm x y mul_comm
  mul_assoc x y z := lift_assoc x y z mul_assoc
  ofNat_add m n := congrArg number (Nat.cast_add m n)
  ofNat_div {m n} some_m some_n := by
    have quotient : (m : ℝ) / ((n * m : ℕ) : ℝ) = ((1 : ℕ) : ℝ) / n :=
      Scalar.ExactArithmetic.ofNat_div some_m some_n
    rw [ofNat_eq, ofNat_eq, ofNat_eq, ofNat_eq,
      number_div _ (Nat.cast_ne_zero.2 (Nat.mul_pos some_n some_m).ne'),
      number_div _ (Nat.cast_ne_zero.2 some_n.ne'), quotient]

theorem add_div_eq : (x + y) / z = x / z + y / z := by
  cases z with
  | notANumber =>
    show lift _ _ notANumber = lift _ (lift _ _ notANumber) _
    rw [lift_notANumber, lift_notANumber, notANumber_lift]
  | number c =>
    by_cases zero : c = 0
    · subst zero
      rw [div_zero, div_zero, div_zero]
      rfl
    · cases x with
      | notANumber => rfl
      | number a =>
        cases y with
        | notANumber =>
          show lift _ notANumber _ = lift _ _ (lift _ notANumber _)
          rw [notANumber_lift, lift_notANumber]
        | number b =>
          rw [number_add, number_div _ zero, number_div _ zero, number_div _ zero, number_add,
            add_div]

theorem add_mul_eq : (x + y) * z = x * z + y * z := by
  cases x with
  | notANumber => cases z <;> rfl
  | number a =>
    cases y with
    | notANumber => cases z <;> rfl
    | number b =>
      cases z with
      | notANumber => rfl
      | number c => exact congrArg number (add_mul a b c)

end Laws

/-! ### Numbers -/

/-- A real number. -/
def IsNumber (x : ExactNumber F) : Prop :=
  ∃ a, x = number a

/-- A real number that is not negative. -/
def Nonneg (x : ExactNumber F) : Prop :=
  ∃ a, 0 ≤ a ∧ x = number a

/-- A positive real number. -/
def Positive (x : ExactNumber F) : Prop :=
  ∃ a, 0 < a ∧ x = number a

theorem isNumber_number (a : ℝ) : (number a : ExactNumber F).IsNumber := ⟨a, rfl⟩

theorem not_isNumber_notANumber : ¬ (notANumber : ExactNumber F).IsNumber := by
  rintro ⟨a, same⟩
  simp at same

theorem eq_notANumber_of_not_isNumber {x : ExactNumber F} (none : ¬ x.IsNumber) :
    x = notANumber := by
  cases x with
  | number a => exact absurd (isNumber_number a) none
  | notANumber => rfl

theorem Nonneg.isNumber {x : ExactNumber F} (nonneg : x.Nonneg) : x.IsNumber := by
  obtain ⟨a, -, rfl⟩ := nonneg
  exact ⟨a, rfl⟩

theorem Positive.nonneg {x : ExactNumber F} (positive : x.Positive) : x.Nonneg := by
  obtain ⟨a, some_a, rfl⟩ := positive
  exact ⟨a, some_a.le, rfl⟩

theorem Positive.ne_zero {x : ExactNumber F} (positive : x.Positive) : x ≠ number 0 := by
  obtain ⟨a, some_a, rfl⟩ := positive
  exact fun same => some_a.ne' (number.inj same)

theorem positive_ofNat {n : Nat} (some_n : 0 < n) : (Scalar.ofNat n : ExactNumber F).Positive :=
  ⟨n, Nat.cast_pos.2 some_n, rfl⟩

theorem nonneg_iff_atMost {x : ExactNumber F} :
    x.Nonneg ↔ Scalar.atMost (Scalar.ofNat 0) x = true := by
  cases x with
  | notANumber => simp [Nonneg, Scalar.atMost, compare]
  | number a => simp [Nonneg, atMost_number]

theorem nonneg_ofNat (n : Nat) : (Scalar.ofNat n : ExactNumber F).Nonneg :=
  ⟨n, Nat.cast_nonneg n, rfl⟩

/-- An operation that always has a result yields numbers from numbers, and from nothing else. -/
theorem isNumber_lift_iff (g : ℝ → ℝ → ℝ) {x y : ExactNumber F} :
    (lift (fun a b => some (g a b)) x y).IsNumber ↔ x.IsNumber ∧ y.IsNumber := by
  cases x with
  | notANumber =>
    rw [notANumber_lift]
    exact iff_of_false not_isNumber_notANumber fun both => not_isNumber_notANumber both.1
  | number a =>
    cases y with
    | notANumber =>
      rw [lift_notANumber]
      exact iff_of_false not_isNumber_notANumber fun both => not_isNumber_notANumber both.2
    | number b => exact iff_of_true ⟨g a b, rfl⟩ ⟨⟨a, rfl⟩, b, rfl⟩

variable {x y : ExactNumber F}

theorem isNumber_add_iff : (x + y).IsNumber ↔ x.IsNumber ∧ y.IsNumber :=
  isNumber_lift_iff (· + ·)

theorem isNumber_mul_iff : (x * y).IsNumber ↔ x.IsNumber ∧ y.IsNumber :=
  isNumber_lift_iff (· * ·)

/-- A quotient is a number when it is one of numbers and nothing is divided by zero. -/
theorem isNumber_div_iff : (x / y).IsNumber ↔ x.IsNumber ∧ y.IsNumber ∧ y ≠ number 0 := by
  cases y with
  | notANumber =>
    refine iff_of_false ?_ fun both => not_isNumber_notANumber both.2.1
    show ¬ (lift _ x notANumber).IsNumber
    rw [lift_notANumber]
    exact not_isNumber_notANumber
  | number b =>
    by_cases zero : b = 0
    · subst zero
      rw [div_zero]
      exact iff_of_false not_isNumber_notANumber fun both => both.2.2 rfl
    · have some_b : (number b : ExactNumber F) ≠ number 0 := fun same => zero (number.inj same)
      cases x with
      | notANumber =>
        refine iff_of_false ?_ fun both => not_isNumber_notANumber both.1
        exact not_isNumber_notANumber
      | number a =>
        rw [number_div a zero]
        exact iff_of_true ⟨a / b, rfl⟩ ⟨⟨a, rfl⟩, ⟨b, rfl⟩, some_b⟩

/-- A total is a number when all summands are. -/
theorem isNumber_total_iff {xs : List (ExactNumber F)} :
    (Scalar.total xs).IsNumber ↔ ∀ x ∈ xs, x.IsNumber := by
  induction xs with
  | nil => exact iff_of_true (nonneg_ofNat 0).isNumber (by simp)
  | cons x xs ih => rw [Scalar.total_cons, isNumber_add_iff, ih, List.forall_mem_cons]

/-- A product is a number when all factors are. -/
theorem isNumber_product_iff {xs : List (ExactNumber F)} :
    (Scalar.product xs).IsNumber ↔ ∀ x ∈ xs, x.IsNumber := by
  induction xs with
  | nil => exact iff_of_true (nonneg_ofNat 1).isNumber (by simp)
  | cons x xs ih => rw [Scalar.product_cons, isNumber_mul_iff, ih, List.forall_mem_cons]

namespace Positive

theorem add (first : x.Positive) (second : y.Nonneg) : (x + y).Positive := by
  obtain ⟨a, positive, rfl⟩ := first
  obtain ⟨b, nonneg, rfl⟩ := second
  exact ⟨a + b, add_pos_of_pos_of_nonneg positive nonneg, rfl⟩

theorem div (first : x.Positive) (second : y.Positive) : (x / y).Positive := by
  obtain ⟨a, positive, rfl⟩ := first
  obtain ⟨b, other_positive, rfl⟩ := second
  exact ⟨a / b, div_pos positive other_positive, number_div a other_positive.ne'⟩

end Positive

namespace Nonneg

theorem add (first : x.Nonneg) (second : y.Nonneg) : (x + y).Nonneg := by
  obtain ⟨a, nonneg, rfl⟩ := first
  obtain ⟨b, other_nonneg, rfl⟩ := second
  exact ⟨a + b, add_nonneg nonneg other_nonneg, rfl⟩

theorem mul (first : x.Nonneg) (second : y.Nonneg) : (x * y).Nonneg := by
  obtain ⟨a, nonneg, rfl⟩ := first
  obtain ⟨b, other_nonneg, rfl⟩ := second
  exact ⟨a * b, mul_nonneg nonneg other_nonneg, rfl⟩

theorem div (first : x.Nonneg) (second : y.Nonneg) (divisor : y ≠ number 0) : (x / y).Nonneg := by
  obtain ⟨a, nonneg, rfl⟩ := first
  obtain ⟨b, other_nonneg, rfl⟩ := second
  have some_b : b ≠ 0 := fun zero => divisor (congrArg number zero)
  exact ⟨a / b, div_nonneg nonneg other_nonneg, number_div a some_b⟩

theorem pow (powers : F.PowExists) (base : x.Nonneg) (exponent : y.Nonneg) :
    (Scalar.pow x y).Nonneg := by
  obtain ⟨a, nonneg, rfl⟩ := base
  obtain ⟨b, other_nonneg, rfl⟩ := exponent
  obtain ⟨c, power_nonneg, power⟩ := powers a b nonneg other_nonneg
  exact ⟨c, power_nonneg, by rw [pow_number, power]; rfl⟩

theorem total {xs : List (ExactNumber F)} (all : ∀ x ∈ xs, x.Nonneg) :
    (Scalar.total xs).Nonneg := by
  induction xs with
  | nil => exact nonneg_ofNat 0
  | cons x xs ih =>
    obtain ⟨first, others⟩ := List.forall_mem_cons.1 all
    rw [Scalar.total_cons]
    exact first.add (ih others)

theorem product {xs : List (ExactNumber F)} (all : ∀ x ∈ xs, x.Nonneg) :
    (Scalar.product xs).Nonneg := by
  induction xs with
  | nil => exact nonneg_ofNat 1
  | cons x xs ih =>
    obtain ⟨first, others⟩ := List.forall_mem_cons.1 all
    rw [Scalar.product_cons]
    exact first.mul (ih others)

end Nonneg

/-! ### Numbers that are not negative -/

/-- What is no negative number: a number that is not negative, or not a number. -/
def NotNegative (x : ExactNumber F) : Prop :=
  x.IsNumber → x.Nonneg

theorem Nonneg.notNegative (nonneg : x.Nonneg) : x.NotNegative :=
  fun _ => nonneg

theorem NotNegative.cases (not_negative : x.NotNegative) : x.Nonneg ∨ x = notANumber := by
  cases x with
  | notANumber => exact .inr rfl
  | number a => exact .inl (not_negative ⟨a, rfl⟩)

theorem isNumber_pow_iff (powers : F.PowExists) (not_negative : x.NotNegative)
    (exponent : y.Nonneg) : (Scalar.pow x y).IsNumber ↔ x.IsNumber := by
  rcases not_negative.cases with nonneg | rfl
  · exact iff_of_true (nonneg.pow powers exponent).isNumber nonneg.isNumber
  · show (lift _ notANumber y).IsNumber ↔ _
    rw [notANumber_lift]

/-- Powers of one base whose exponents are positive are multiplied by adding the exponents. -/
theorem pow_add_of_positive (adds : F.PowAdds) {z : ExactNumber F} (not_negative : x.NotNegative)
    (exponent : y.Positive) (other_exponent : z.Positive) :
    Scalar.pow x (y + z) = Scalar.pow x y * Scalar.pow x z := by
  rcases not_negative.cases with ⟨a, nonneg, rfl⟩ | rfl
  · obtain ⟨b, positive, rfl⟩ := exponent
    obtain ⟨c, other_positive, rfl⟩ := other_exponent
    rw [number_add, pow_number, pow_number, pow_number, adds a b c nonneg positive other_positive]
    cases F.pow a b <;> cases F.pow a c <;> rfl
  · show lift _ notANumber _ = lift _ (lift _ notANumber _) _
    rw [notANumber_lift, notANumber_lift, notANumber_lift]

end ExactNumber

end RankedRetrieval
