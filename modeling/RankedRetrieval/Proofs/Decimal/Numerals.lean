import RankedRetrieval.Decimal.Reading

/-!
# Numerals of naturals

The numeral of a natural is read as that natural.

## Main Results

* `Decimal.readNat_repr` — the numeral of a natural reads back
* `Decimal.le_of_readNat` — what is read is within its bound
-/

namespace RankedRetrieval.Decimal

theorem isDigit_eq (c : Char) : isDigit c = c.isDigit := by
  simp only [isDigit, Char.isDigit, Char.le_def, ge_iff_le]

theorem isDigit_of_mem_digits {n : Nat} {c : Char} (member : c ∈ digits n) :
    isDigit c = true := by
  rw [isDigit_eq]
  exact Nat.isDigit_of_mem_toDigits (by decide) (by decide) member

/-- The numeral of a positive number has no zero in front. -/
theorem head?_digits_ne_zero {n : Nat} (positive : 0 < n) : (digits n).head? ≠ some '0' := by
  have of_single : ∀ m < 10, 0 < m → (digits m).head? ≠ some '0' := by decide
  induction n using Nat.strongRecOn with
  | _ n ih =>
    by_cases small : n < 10
    · exact of_single n small positive
    · have first : digits n = digits (n / 10) ++ [(n % 10).digitChar] :=
        Nat.toDigits_of_base_le (by decide) (Nat.le_of_not_lt small)
      have shorter := ih (n / 10) (Nat.div_lt_self positive (by decide)) (by omega)
      have begun : digits (n / 10) ≠ [] := Nat.toDigits_ne_nil
      obtain ⟨d, ds, split⟩ := List.exists_cons_of_ne_nil begun
      rw [split] at shorter
      rw [first, split]
      exact shorter

/-- Digits are read as the number that they denote after a value, unless that is too large. -/
theorem readDigits_eq_ok {bound n : Nat} {overflow : NumeralError} {ds : List Char}
    (digits : ∀ c ∈ ds, isDigit c = true) (fits : Nat.ofDigitChars 10 ds n ≤ bound) :
    readDigits bound overflow n ds = .ok (Nat.ofDigitChars 10 ds n) := by
  induction ds generalizing n with
  | nil => rw [readDigits, Nat.ofDigitChars_nil]
  | cons c rest ih =>
    obtain ⟨head, tail⟩ := List.forall_mem_cons.1 digits
    rw [Nat.ofDigitChars_cons] at fits ⊢
    have first_fits : 10 * n + digitValue c ≤ bound := by
      refine Nat.le_trans ?_ fits
      rw [Nat.ofDigitChars_eq_ofDigitChars_zero]
      refine Nat.le_trans ?_ (Nat.le_add_right _ _)
      exact Nat.le_mul_of_pos_left _ (Nat.pow_pos (by decide))
    rw [readDigits, if_pos head, if_pos first_fits]
    exact ih tail fits

/-- The numeral of a natural reads back. -/
theorem readNat_repr {bound n : Nat} (fits : n ≤ bound) :
    readNat bound (Nat.repr n) = .ok n := by
  have all_digits : ∀ c ∈ (Nat.repr n).toList, isDigit c = true := by
    rw [Nat.toList_repr]
    exact fun c member => isDigit_of_mem_digits member
  have denoted : Nat.ofDigitChars 10 (Nat.repr n).toList 0 = n := by
    rw [Nat.toList_repr, Nat.ofDigitChars_ten_toDigits]
  have nonempty : (Nat.repr n).toList ≠ [] := by
    rw [Nat.toList_repr]
    exact Nat.toDigits_ne_nil
  unfold readNat
  split
  · rename_i empty
    exact absurd empty nonempty
  · rename_i signed
    rw [signed] at all_digits
    exact absurd (all_digits '+' List.mem_cons_self) (by decide)
  · rw [readSomeDigits, if_neg (by simpa only [List.isEmpty_iff] using nonempty),
      readDigits_eq_ok all_digits (by rw [denoted]; exact fits), denoted]

theorem le_of_readDigits {bound n m : Nat} {overflow : NumeralError} {ds : List Char}
    (begun : n ≤ bound) (read : readDigits bound overflow n ds = .ok m) : m ≤ bound := by
  induction ds generalizing n with
  | nil =>
    obtain rfl := Except.ok.inj read
    exact begun
  | cons c rest ih =>
    rw [readDigits] at read
    split at read
    · split at read
      · rename_i fits
        exact ih fits read
      · simp at read
    · simp at read

/-- What is read is within its bound. -/
theorem le_of_readNat {bound n : Nat} {text : String} (read : readNat bound text = .ok n) :
    n ≤ bound := by
  have of_some_digits {ds : List Char} (read : readSomeDigits bound .tooLarge ds = .ok n) :
      n ≤ bound := by
    unfold readSomeDigits at read
    split at read
    · simp at read
    · exact le_of_readDigits (Nat.zero_le _) read
  unfold readNat at read
  split at read
  · simp at read
  · exact of_some_digits read
  · exact of_some_digits read

end RankedRetrieval.Decimal
