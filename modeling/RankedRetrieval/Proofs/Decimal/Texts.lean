import Mathlib.Data.List.TakeWhile
import RankedRetrieval.Decimal.Fixed
import RankedRetrieval.Decimal.Reading
import RankedRetrieval.Proofs.Decimal.Numerals
import RankedRetrieval.Text.Blank

/-!
# The texts of numbers

What a number is written as is always read as a number, and has no character with a meaning in a
query.

## Main Definitions

* `Decimal.NumeralChar` — the characters of numerals
* `Decimal.Pointed` — digits with at most one point among them
* `Decimal.NumberText` — what numbers are written as

## Main Results

* `Decimal.numberText_shortest`, `Decimal.numberText_fixed` — both texts of a number are such
* `Decimal.NumberText.numeralChar` — they consist of the characters of numerals
* `Decimal.NumberText.readNumber` — they are read as numbers
-/

namespace RankedRetrieval.Decimal

/-! ### Characters -/

/-- The characters of numerals: digits, a sign, a point, and letters for what has no digits. -/
def NumeralChar (c : Char) : Prop :=
  isDigit c = true ∨ c ∈ ['-', '.', 'N', 'a', 'i', 'n', 'f']

instance numeralCharDecidable (c : Char) : Decidable (NumeralChar c) :=
  inferInstanceAs (Decidable (_ ∨ _))

theorem isBlank_of_isDigit {c : Char} (digit : isDigit c = true) : Text.isBlank c = false := by
  simp only [isDigit, Bool.and_eq_true, decide_eq_true_eq, Char.le_def, UInt32.le_iff_toNat_le]
    at digit
  have low : 0x30 ≤ c.toNat := digit.1
  have high : c.toNat ≤ 0x39 := digit.2
  simp only [Text.isBlank, Bool.or_eq_false_iff, Bool.and_eq_false_iff, decide_eq_false_iff_not]
  omega

/-- No character of a numeral is a blank. -/
theorem isBlank_of_numeralChar {c : Char} (numeral : NumeralChar c) : Text.isBlank c = false := by
  rcases numeral with digit | other
  · exact isBlank_of_isDigit digit
  · have none_blank : ['-', '.', 'N', 'a', 'i', 'n', 'f'].any Text.isBlank = false := by decide
    simpa using List.any_eq_false.1 none_blank c other

theorem numeralChar_of_mem_signed {negative : Bool} {text : List Char}
    (chars : ∀ c ∈ text, NumeralChar c) : ∀ c ∈ signed negative text, NumeralChar c := by
  unfold signed
  split
  · exact List.forall_mem_cons.2 ⟨.inr (by decide), chars⟩
  · exact chars

theorem signed_ne_nil {negative : Bool} {text : List Char} (nonempty : text ≠ []) :
    signed negative text ≠ [] := by
  unfold signed
  split
  · simp
  · exact nonempty

/-! ### Digits with a point -/

/-- Digits with at most one point, which stands behind the first of them. -/
inductive Pointed : List Char → Prop where
  /-- A whole number. -/
  | whole {ds : List Char} (nonempty : ds ≠ []) (digits : ∀ c ∈ ds, isDigit c = true) : Pointed ds
  /-- A number with places. -/
  | places {ds fraction : List Char} (nonempty : ds ≠ []) (digits : ∀ c ∈ ds, isDigit c = true)
      (fraction_digits : ∀ c ∈ fraction, isDigit c = true) : Pointed (ds ++ '.' :: fraction)

theorem Pointed.ne_nil {text : List Char} (pointed : Pointed text) : text ≠ [] := by
  cases pointed with
  | whole nonempty _ => exact nonempty
  | places nonempty _ _ => exact List.append_ne_nil_of_left_ne_nil nonempty _

theorem Pointed.numeralChar {text : List Char} (pointed : Pointed text) :
    ∀ c ∈ text, NumeralChar c := by
  intro c member
  cases pointed with
  | whole _ digits => exact .inl (digits c member)
  | places _ digits fraction_digits =>
    rcases List.mem_append.1 member with whole | rest
    · exact .inl (digits c whole)
    · rcases List.mem_cons.1 rest with rfl | place
      · exact .inr (by decide)
      · exact .inl (fraction_digits c place)

theorem mem_dropTrailingZeros {c : Char} {ds : List Char} (member : c ∈ dropTrailingZeros ds) :
    c ∈ ds := by
  unfold dropTrailingZeros at member
  rw [List.mem_reverse] at member
  exact List.mem_reverse.1 ((List.dropWhile_sublist _).subset member)

theorem isDigit_of_mem_padLeft {width n : Nat} {c : Char}
    (member : c ∈ padLeft width (digits n)) : isDigit c = true := by
  rcases List.mem_append.1 member with zeros | digit
  · rw [List.eq_of_mem_replicate zeros]
    decide
  · exact isDigit_of_mem_digits digit

/-- Zeros in front leave a digit before the places. -/
theorem take_padLeft_ne_nil (places n : Nat) :
    (padLeft (places + 1) (digits n)).take
      ((padLeft (places + 1) (digits n)).length - places) ≠ [] := by
  refine List.ne_nil_of_length_pos ?_
  simp only [List.length_take, padLeft, List.length_append, List.length_replicate]
  omega

theorem pointed_withPlaces (n places : Nat) : Pointed (withPlaces n places) := by
  have whole_ne_nil := take_padLeft_ne_nil places n
  unfold withPlaces
  dsimp only
  split
  · exact .whole whole_ne_nil fun c member => isDigit_of_mem_padLeft (List.mem_of_mem_take member)
  · exact .places whole_ne_nil
      (fun c member => isDigit_of_mem_padLeft (List.mem_of_mem_take member))
      fun c member => isDigit_of_mem_padLeft (List.mem_of_mem_drop member)

theorem pointed_positional (multiple : Nat) (power : Int) :
    Pointed (positional multiple power) := by
  have whole_ne_nil := take_padLeft_ne_nil (-power).toNat multiple
  unfold positional
  dsimp only
  split
  · exact .whole Nat.toDigits_ne_nil fun c member => isDigit_of_mem_digits member
  · split
    · exact .whole whole_ne_nil fun c member =>
        isDigit_of_mem_padLeft (List.mem_of_mem_take member)
    · exact .places whole_ne_nil
        (fun c member => isDigit_of_mem_padLeft (List.mem_of_mem_take member))
        fun c member => isDigit_of_mem_padLeft (List.mem_of_mem_drop (mem_dropTrailingZeros member))

/-! ### Reading -/

/-- Digits with a point are a decimal without an exponent. -/
theorem Pointed.readLiteral? {text : List Char} (pointed : Pointed text) (negative : Bool) :
    ∃ l, Decimal.readLiteral? negative text = some l := by
  cases pointed with
  | whole nonempty digits =>
    have taken : text.takeWhile isDigit = text := List.takeWhile_eq_self_iff.2 digits
    have dropped : text.dropWhile isDigit = [] := List.dropWhile_eq_nil_iff.2 digits
    simp [Decimal.readLiteral?, taken, dropped, nonempty, readExponent?]
  | @places ds fraction nonempty digits fraction_digits =>
    have taken : (ds ++ '.' :: fraction).takeWhile isDigit = ds := by
      rw [List.takeWhile_append_of_pos digits, List.takeWhile_cons_of_neg (by decide),
        List.append_nil]
    have dropped : (ds ++ '.' :: fraction).dropWhile isDigit = '.' :: fraction := by
      rw [List.dropWhile_append_of_pos digits, List.dropWhile_cons_of_neg (by decide)]
    have no_exponent : fraction.dropWhile isDigit = [] :=
      List.dropWhile_eq_nil_iff.2 fraction_digits
    simp [Decimal.readLiteral?, taken, dropped, nonempty, no_exponent, readExponent?]

/-- The sign of digits is split off again. -/
theorem Pointed.splitSign_signed {text : List Char} (pointed : Pointed text) (negative : Bool) :
    splitSign (signed negative text) = (negative, text) := by
  obtain ⟨c, rest, rfl, digit⟩ : ∃ c rest, text = c :: rest ∧ isDigit c = true := by
    cases pointed with
    | whole nonempty digits =>
      obtain ⟨c, rest, rfl⟩ := List.exists_cons_of_ne_nil nonempty
      exact ⟨c, rest, rfl, digits c List.mem_cons_self⟩
    | places nonempty digits _ =>
      obtain ⟨c, rest, rfl⟩ := List.exists_cons_of_ne_nil nonempty
      exact ⟨c, _, rfl, digits c List.mem_cons_self⟩
  cases negative with
  | true => rfl
  | false =>
    unfold signed splitSign
    rw [if_neg (by decide)]
    split
    · rename_i same
      rw [(List.cons.inj same).1] at digit
      exact absurd digit (by decide)
    · rename_i same
      rw [(List.cons.inj same).1] at digit
      exact absurd digit (by decide)
    · rfl

/-- Digits with a point are read, with or without a sign. -/
theorem readNumber_signed {text : List Char} (pointed : Pointed text) (negative : Bool) :
    ∃ x, readNumber (String.ofList (signed negative text)) = .ok x := by
  obtain ⟨l, literal⟩ := pointed.readLiteral? negative
  unfold readNumber
  rw [String.toList_ofList]
  split
  · rename_i empty
    exact absurd empty (signed_ne_nil pointed.ne_nil)
  · rw [pointed.splitSign_signed negative]
    dsimp only
    split
    · exact ⟨_, rfl⟩
    · exact ⟨_, rfl⟩
    · exact ⟨_, rfl⟩
    · rw [literal]
      exact ⟨_, rfl⟩

/-! ### Texts of numbers -/

/-- What a number is written as: signed digits, or a word for what has no digits. -/
inductive NumberText : String → Prop where
  /-- A number without digits is written as a word. -/
  | word {text : String} (known : text ∈ ["NaN", "-inf", "inf"]) : NumberText text
  /-- All other numbers are written with digits. -/
  | digits {text : List Char} (negative : Bool) (pointed : Pointed text) :
      NumberText (String.ofList (signed negative text))

theorem NumberText.ne_nil {text : String} (written : NumberText text) : text.toList ≠ [] := by
  cases written with
  | word known =>
    have all_letters : ∀ word ∈ ["NaN", "-inf", "inf"], word.toList ≠ [] := by decide
    exact all_letters text known
  | digits negative pointed =>
    rw [String.toList_ofList]
    exact signed_ne_nil pointed.ne_nil

theorem NumberText.numeralChar {text : String} (written : NumberText text) :
    ∀ c ∈ text.toList, NumeralChar c := by
  cases written with
  | word known =>
    have all_letters : ∀ word ∈ ["NaN", "-inf", "inf"],
        word.toList.all (fun c => decide (NumeralChar c)) = true := by
      decide
    exact fun c member => of_decide_eq_true (List.all_eq_true.1 (all_letters text known) c member)
  | digits negative pointed =>
    rw [String.toList_ofList]
    exact numeralChar_of_mem_signed pointed.numeralChar

/-- What a number is written as is read as a number. -/
theorem NumberText.readNumber {text : String} (written : NumberText text) :
    ∃ x, Decimal.readNumber text = .ok x := by
  cases written with
  | word known =>
    simp only [List.mem_cons, List.not_mem_nil, or_false] at known
    rcases known with rfl | rfl | rfl
    · exact ⟨.notANumber false, rfl⟩
    · exact ⟨.ofFloat (Binary64.infinity true), rfl⟩
    · exact ⟨.ofFloat (Binary64.infinity false), rfl⟩
  | digits negative pointed => exact readNumber_signed pointed negative

theorem numberText_shortest (x : Float) : NumberText (shortest x) := by
  unfold shortest
  split
  · exact .word (by decide)
  · refine .word ?_
    split <;> decide
  · exact .digits _ (.whole (by decide) (List.forall_mem_singleton.2 (by decide)))
  · exact .digits _ (pointed_positional _ _)

theorem numberText_fixed (places : Nat) (x : Float) : NumberText (fixed places x) := by
  unfold fixed
  split
  · exact .word (by decide)
  · refine .word ?_
    split <;> decide
  · exact .digits _ (pointed_withPlaces _ _)

/-! ### Texts of integers -/

theorem isDigit_of_mem_natRepr {n : Nat} {c : Char} (member : c ∈ (Nat.repr n).toList) :
    isDigit c = true := by
  rw [Nat.toList_repr] at member
  exact isDigit_of_mem_digits member

theorem toList_natRepr_ne_nil (n : Nat) : (Nat.repr n).toList ≠ [] := by
  rw [Nat.toList_repr]
  exact Nat.toDigits_ne_nil

theorem numeralChar_of_mem_natRepr {n : Nat} {c : Char} (member : c ∈ (Nat.repr n).toList) :
    NumeralChar c :=
  .inl (isDigit_of_mem_natRepr member)

theorem numeralChar_of_mem_intRepr {z : Int} {c : Char} (member : c ∈ z.repr.toList) :
    NumeralChar c := by
  cases z with
  | ofNat n => exact numeralChar_of_mem_natRepr member
  | negSucc n =>
    rw [Int.repr, String.toList_append, List.mem_append] at member
    rcases member with sign | digit
    · obtain rfl : c = '-' := by simpa using sign
      exact .inr (by decide)
    · exact numeralChar_of_mem_natRepr digit

end RankedRetrieval.Decimal
