import RankedRetrieval.Proofs.Decimal.Numerals
import RankedRetrieval.Script.Condition

/-!
# Values of arithmetic expressions

What an expression yields, and what becomes of the variables.  A value is written to a variable
as a numeral, and every numeral of a number is read as that number, so a variable holds the value
that it was given.

## Main Definitions

* `Expression.targets` — the variables that an expression gives values to

## Main Results

* `numberOf?_repr`, `Condition.decimal?_repr` — the numeral of a number is read as that number
* `Expression.parameter?_assign` — an assignment gives its value to the variable
* `Expression.get?_of_value?` — all variables but the targets of an expression stay as they are
-/

namespace RankedRetrieval.Script

open Decimal

/-! ### Numerals -/

theorem fitted?_toInt (n : Int64) : fitted? n.toInt = some n := by
  have least := n.le_toInt
  have greatest := n.toInt_lt
  have within : -(greatestNumber : Int) - 1 ≤ n.toInt ∧ n.toInt ≤ greatestNumber := by
    have limit : (greatestNumber : Int) = 2 ^ 63 - 1 := by decide
    omega
  rw [fitted?, if_pos (by simpa using within), Int64.ofInt_toInt]

theorem digitValue?_of_isDigit {c : Char} (digit : c.isDigit = true) :
    digitValue? c = some (c.toNat - '0'.toNat) ∧ c.toNat - '0'.toNat < 10 := by
  refine ⟨if_pos digit, ?_⟩
  simp only [Char.isDigit, Bool.and_eq_true, decide_eq_true_eq, ge_iff_le,
    UInt32.le_iff_toNat_le] at digit
  have greatest : c.toNat ≤ '9'.toNat := digit.2
  have zero : '0'.toNat = 48 := rfl
  have nine : '9'.toNat = 57 := rfl
  omega

theorem readBase_of_digits {n : Nat} {ds : List Char} (digits : ∀ c ∈ ds, c.isDigit = true) :
    readBase 10 n ds = (Nat.ofDigitChars 10 ds n, []) := by
  induction ds generalizing n with
  | nil => rw [readBase, Nat.ofDigitChars_nil]
  | cons c ds ih =>
    obtain ⟨first, others⟩ := List.forall_mem_cons.1 digits
    obtain ⟨value, small⟩ := digitValue?_of_isDigit first
    rw [readBase, value]
    dsimp only
    rw [if_pos small, ih others, Nat.ofDigitChars_cons]

theorem readBase_digits (n : Nat) : readBase 10 0 (digits n) = (n, []) := by
  have all_digits : ∀ c ∈ digits n, c.isDigit = true := fun c member =>
    isDigit_eq c ▸ isDigit_of_mem_digits member
  rw [readBase_of_digits all_digits, digits, Nat.ofDigitChars_ten_toDigits]

/-- A numeral has no zero in front that announces another base. -/
theorem readNumeral_digits (n : Nat) : readNumeral (digits n) = (n, []) := by
  rcases Nat.eq_zero_or_pos n with rfl | positive
  · decide
  · have no_zero := head?_digits_ne_zero positive
    rw [← readBase_digits n]
    generalize digits n = ds at no_zero
    unfold readNumeral
    split
    · simp at no_zero
    · simp at no_zero
    · rfl

/-- A numeral begins with a digit, which is neither a sign nor a separator. -/
theorem digits_eq_cons (n : Nat) : ∃ d ds, digits n = d :: ds ∧ d.isDigit = true := by
  obtain ⟨d, ds, split⟩ := List.exists_cons_of_ne_nil (Nat.toDigits_ne_nil (b := 10) (n := n))
  have member : d ∈ digits n := by
    rw [digits, split]
    exact List.mem_cons_self
  exact ⟨d, ds, split, isDigit_eq d ▸ isDigit_of_mem_digits member⟩

theorem ne_of_isDigit {c d : Char} (digit : c.isDigit = true) (other : d.isDigit = false) :
    c ≠ d := by
  rintro rfl
  exact Bool.noConfusion (digit.symm.trans other)

theorem isSeparator_of_isDigit {c : Char} (digit : c.isDigit = true) : isSeparator c = false := by
  have no_blank := ne_of_isDigit (d := ' ') digit rfl
  have no_tab := ne_of_isDigit (d := '\t') digit rfl
  have no_end := ne_of_isDigit (d := '\n') digit rfl
  simp [isSeparator, no_blank, no_tab, no_end]

theorem splitNumber_natRepr (n : Nat) : splitNumber (Nat.repr n) = ((n : Int), []) := by
  obtain ⟨d, ds, split, digit⟩ := digits_eq_cons n
  have numeral : readNumeral (d :: ds) = (n, []) := split ▸ readNumeral_digits n
  have text : (Nat.repr n).toList = d :: ds := by rw [Nat.toList_repr, ← split, digits]
  have no_minus := ne_of_isDigit (d := '-') digit rfl
  have no_plus := ne_of_isDigit (d := '+') digit rfl
  rw [splitNumber, text, List.dropWhile_cons_of_neg (by simp [isSeparator_of_isDigit digit])]
  simp [no_minus, no_plus, digit, numeral]

theorem splitNumber_minus (n : Nat) : splitNumber ("-" ++ Nat.repr n) = (-(n : Int), []) := by
  obtain ⟨d, ds, split, digit⟩ := digits_eq_cons n
  have numeral : readNumeral (d :: ds) = (n, []) := split ▸ readNumeral_digits n
  have text : ("-" ++ Nat.repr n).toList = '-' :: d :: ds := by
    rw [String.toList_append, Nat.toList_repr, ← split, digits]
    rfl
  rw [splitNumber, text, List.dropWhile_cons_of_neg (by decide)]
  simp [digit, numeral]

/-- The numeral of an integer is read as that integer. -/
theorem splitNumber_repr (z : Int) : splitNumber z.repr = (z, []) := by
  cases z with
  | ofNat n => exact splitNumber_natRepr n
  | negSucc n => exact splitNumber_minus (n + 1)

/-- The numeral of a number is read as that number. -/
theorem numberOf?_repr (n : Int64) : numberOf? n.toInt.repr = some n := by
  rw [numberOf?, splitNumber_repr]
  exact fitted?_toInt n

theorem isSeparator_of_mem_digits {n : Nat} {c : Char} (member : c ∈ digits n) :
    isSeparator c = false :=
  isSeparator_of_isDigit (isDigit_eq c ▸ isDigit_of_mem_digits member)

/-- Characters that do not separate words are left when separators are dropped on both sides. -/
theorem dropSeparators_of_none {cs : List Char} (solid : ∀ c ∈ cs, isSeparator c = false) :
    ((cs.dropWhile isSeparator).reverse.dropWhile isSeparator).reverse = cs := by
  have kept {ds : List Char} (solid : ∀ c ∈ ds, isSeparator c = false) :
      ds.dropWhile isSeparator = ds := by
    cases ds with
    | nil => rfl
    | cons d ds => exact List.dropWhile_cons_of_neg (by simp [solid d List.mem_cons_self])
  rw [kept solid, kept fun c member => solid c (List.mem_reverse.1 member), List.reverse_reverse]

/-- A condition reads the numeral of a number as that number. -/
theorem Condition.decimal?_repr (n : Int64) : decimal? n.toInt.repr = some n := by
  rw [← fitted?_toInt n]
  cases n.toInt with
  | ofNat m =>
    obtain ⟨d, ds, split, digit⟩ := digits_eq_cons m
    have value := readBase_digits m
    have solid : ∀ c ∈ d :: ds, isSeparator c = false := fun c member =>
      isSeparator_of_mem_digits (split ▸ member)
    have text : (Int.ofNat m).repr.toList = d :: ds := by
      rw [Int.repr, Nat.toList_repr, ← split, digits]
    have no_minus := ne_of_isDigit (d := '-') digit rfl
    have no_plus := ne_of_isDigit (d := '+') digit rfl
    rw [decimal?, text, dropSeparators_of_none solid]
    rw [split] at value
    simp [no_minus, no_plus, value]
  | negSucc m =>
    obtain ⟨d, ds, split, digit⟩ := digits_eq_cons (m + 1)
    have value := readBase_digits (m + 1)
    have solid : ∀ c ∈ '-' :: d :: ds, isSeparator c = false :=
      List.forall_mem_cons.2 ⟨by decide, fun c member => isSeparator_of_mem_digits (split ▸ member)⟩
    have text : (Int.negSucc m).repr.toList = '-' :: d :: ds := by
      rw [Int.repr, String.toList_append, Nat.toList_repr, ← split, digits]
      rfl
    rw [decimal?, text, dropSeparators_of_none solid]
    rw [split] at value
    simp [value, Int.negSucc_eq]

/-! ### Variables -/

namespace Expression

variable {bindings after : Table String String} {n : Int64}

/-- The variables that an expression may give values to. -/
def targets : Expression → List String
  | number _ | parameter _ => []
  | signed _ e => e.targets
  | binary _ left right => left.targets ++ right.targets
  | choose condition yes no => condition.targets ++ (yes.targets ++ no.targets)
  | assign name _ e => name :: e.targets

/-- A sign between two expressions evaluates the left one, and the right one unless it stops
there. -/
theorem binary_cases {sign : String} {left right : Expression}
    (evaluated : (binary sign left right).value? bindings = some (n, after)) :
    ∃ m between, left.value? bindings = some (m, between) ∧
      (after = between ∨ ∃ k, right.value? between = some (k, after)) := by
  rw [value?, Option.bind_eq_bind, Option.bind_eq_some_iff] at evaluated
  obtain ⟨⟨m, between⟩, first, evaluated⟩ := evaluated
  dsimp only at evaluated
  refine ⟨m, between, first, ?_⟩
  split at evaluated
  · exact .inl (Prod.mk.inj (Option.some.inj evaluated)).2.symm
  · split at evaluated
    · exact .inl (Prod.mk.inj (Option.some.inj evaluated)).2.symm
    · obtain ⟨⟨k, last⟩, second, evaluated⟩ := Option.bind_eq_some_iff.1 evaluated
      dsimp only at evaluated
      obtain rfl : last = after := by
        split at evaluated
        · exact (Prod.mk.inj (Option.some.inj evaluated)).2
        · obtain ⟨_, -, found⟩ := Option.map_eq_some_iff.1 evaluated
          exact (Prod.mk.inj found).2
      exact .inr ⟨k, second⟩

/-- An assignment writes its value to the variable after everything else. -/
theorem assign_cases {name sign : String} {e : Expression}
    (evaluated : (assign name sign e).value? bindings = some (n, after)) :
    ∃ m between, e.value? bindings = some (m, between) ∧
      after = between.insert name n.toInt.repr := by
  rw [value?, Option.bind_eq_bind, Option.bind_eq_some_iff] at evaluated
  obtain ⟨⟨m, between⟩, first, evaluated⟩ := evaluated
  dsimp only at evaluated
  refine ⟨m, between, first, ?_⟩
  split at evaluated
  all_goals
    obtain ⟨value, -, found⟩ := Option.bind_eq_some_iff.1 evaluated
    obtain ⟨rfl, rfl⟩ := Prod.mk.inj (Option.some.inj found)
    rfl

/-- An assignment gives its value to the variable. -/
theorem parameter?_assign {name sign : String} {e : Expression}
    (evaluated : (assign name sign e).value? bindings = some (n, after)) :
    parameter? after name = some n := by
  obtain ⟨m, between, -, rfl⟩ := assign_cases evaluated
  rw [parameter?, Table.get?_insert, if_pos rfl, Option.getD_some, numberOf?_repr]

/-- All variables but the targets of an expression stay as they are. -/
theorem get?_of_value? {e : Expression} {name : String}
    (evaluated : e.value? bindings = some (n, after)) (other : name ∉ e.targets) :
    after.get? name = bindings.get? name := by
  induction e generalizing bindings n after with
  | number m =>
    obtain ⟨-, rfl⟩ := Prod.mk.inj (Option.some.inj evaluated)
    rfl
  | parameter x =>
    obtain ⟨m, -, found⟩ := Option.map_eq_some_iff.1 evaluated
    obtain ⟨-, rfl⟩ := Prod.mk.inj found
    rfl
  | signed sign e ih =>
    obtain ⟨⟨m, last⟩, inner, found⟩ := Option.map_eq_some_iff.1 evaluated
    obtain ⟨-, rfl⟩ := Prod.mk.inj found
    exact ih inner other
  | binary sign left right left_ih right_ih =>
    rw [targets, List.mem_append, not_or] at other
    obtain ⟨m, between, first, rfl | ⟨k, second⟩⟩ := binary_cases evaluated
    · exact left_ih first other.1
    · exact (right_ih second other.2).trans (left_ih first other.1)
  | choose condition yes no condition_ih yes_ih no_ih =>
    rw [targets, List.mem_append, List.mem_append, not_or, not_or] at other
    rw [value?, Option.bind_eq_bind, Option.bind_eq_some_iff] at evaluated
    obtain ⟨⟨m, between⟩, first, evaluated⟩ := evaluated
    have kept := condition_ih first other.1
    dsimp only at evaluated
    split at evaluated
    · exact (yes_ih evaluated other.2.1).trans kept
    · exact (no_ih evaluated other.2.2).trans kept
  | assign x sign e ih =>
    rw [targets, List.mem_cons, not_or] at other
    obtain ⟨m, between, first, rfl⟩ := assign_cases evaluated
    rw [Table.get?_insert, if_neg (Ne.symm other.1), ih first other.2]

end Expression

end RankedRetrieval.Script
