import Mathlib.Tactic.SplitIfs
import RankedRetrieval.Json.Reading
import RankedRetrieval.Proofs.Decimal.Numerals

/-!
# JSON that has been written is read

## Main Results

* `Json.readText?_quoted` — a quoted text is read back, whatever its characters
* `Json.readNumber?_repr` — the numeral of a natural is read as that natural

## Design Notes

Both say what is read in front of something else, so that they can be used inside an object.
After a numeral there has to stand what cannot continue it.
-/

namespace RankedRetrieval

namespace Decimal

theorem value_digits (n : Nat) : value (digits n) = n := by
  show Nat.ofDigitChars 10 (digits n) 0 = n
  rw [digits, Nat.ofDigitChars_ten_toDigits]

end Decimal

namespace Json

/-! ### Strings -/

theorem hexValue?_hexDigit : ∀ n < 16, hexValue? (hexDigit n) = some n := by decide

theorem hexUnit?_low {n : Nat} (low : n < 32) :
    hexUnit? '0' '0' (hexDigit (n / 16)) (hexDigit (n % 16)) = some n := by
  have zero : hexValue? '0' = some 0 := by decide
  rw [hexUnit?, zero, hexValue?_hexDigit _ (by omega), hexValue?_hexDigit _ (by omega)]
  refine congrArg some ?_
  show (0 * 16 + n / 16) * 16 + n % 16 = n
  omega

/-- A character that stands for itself is read as itself. -/
theorem readUnits?_plain {c : Char} (unquoted : c ≠ '"') (unescaped : c ≠ '\\')
    (printed : ¬ c.toNat < 32) (rest : List Char) :
    readUnits? (c :: rest) =
      (readUnits? rest).map fun (units, after) => (c.toNat :: units, after) := by
  rw [readUnits?.eq_def]
  split
  · contradiction
  · simp_all
  · simp_all
  · simp_all
  · rename_i other tail _ _ _ same
    obtain ⟨rfl, rfl⟩ := List.cons.inj same
    rw [if_neg (by simp [unescaped, printed])]

/-- A character is read from what is written for it. -/
theorem readUnits?_quoteChar (c : Char) (rest : List Char) :
    readUnits? (quoteChar c ++ rest) =
      (readUnits? rest).map fun (units, after) => (c.toNat :: units, after) := by
  have escaped {e : Char} {code : Nat} (short : shortEscape? e = some code) (plain : e ≠ 'u') :
      readUnits? ('\\' :: e :: rest) =
        (readUnits? rest).map fun (units, after) => (code :: units, after) := by
    rw [readUnits?.eq_def]
    split
    · contradiction
    · simp_all
    · simp_all
    · rename_i letter tail _ same
      obtain ⟨-, rest_eq⟩ := List.cons.inj same
      obtain ⟨rfl, rfl⟩ := List.cons.inj rest_eq
      rw [short]
    · rename_i first tail _ _ other same
      obtain ⟨rfl, rfl⟩ := List.cons.inj same
      exact absurd rfl (other e rest rfl)
  unfold quoteChar
  split_ifs with quote backslash feed «return» tab back form low
  · subst quote; exact escaped (by decide) (by decide)
  · subst backslash; exact escaped (by decide) (by decide)
  · subst feed; exact escaped (by decide) (by decide)
  · subst «return»; exact escaped (by decide) (by decide)
  · subst tab; exact escaped (by decide) (by decide)
  · rw [back]; exact escaped (by decide) (by decide)
  · rw [form]; exact escaped (by decide) (by decide)
  · show readUnits? ('\\' :: 'u' :: '0' :: '0' :: hexDigit (c.toNat / 16) ::
      hexDigit (c.toNat % 16) :: rest) = _
    rw [readUnits?, hexUnit?_low low]
  · exact readUnits?_plain quote backslash low rest

/-- The characters of a text are read from what is written between its quotes. -/
theorem readUnits?_quoted (cs rest : List Char) :
    readUnits? (cs.flatMap quoteChar ++ '"' :: rest) = some (cs.map Char.toNat, rest) := by
  induction cs with
  | nil => rfl
  | cons c cs ih =>
    rw [List.flatMap_cons, List.append_assoc, readUnits?_quoteChar, ih]
    rfl

/-- The codes of characters are never halves of a pair. -/
theorem joinUnits?_codes (cs : List Char) : joinUnits? (cs.map Char.toNat) = some cs := by
  induction cs with
  | nil => rfl
  | cons c cs ih =>
    have valid : c.toNat < 0xD800 ∨ 0xDFFF < c.toNat := by
      rcases c.valid with low | high
      · exact .inl low
      · exact .inr high.1
    have not_low : isLowHalf c.toNat = false := by
      simp only [isLowHalf, Bool.and_eq_false_iff, decide_eq_false_iff_not]
      omega
    have not_high : isHighHalf c.toNat = false := by
      simp only [isHighHalf, Bool.and_eq_false_iff, decide_eq_false_iff_not]
      omega
    rw [List.map_cons, joinUnits?.eq_def]
    dsimp only
    rw [not_low, not_high, ih, Char.ofNat_toNat]
    rfl

/-- A quoted text is read back. -/
theorem readText?_quoted (s : String) (rest : List Char) :
    readText? (s.toList.flatMap quoteChar ++ '"' :: rest) = some (some s, rest) := by
  rw [readText?, readUnits?_quoted, Option.map_some]
  dsimp only
  rw [joinUnits?_codes, Option.map_some, String.ofList_toList]

/-! ### Numbers -/

/-- What follows a numeral without continuing it. -/
def EndsNumber (rest : List Char) : Prop :=
  ∀ c ∈ rest.head?, Decimal.isDigit c = false ∧ c ≠ '.' ∧ c ≠ 'e' ∧ c ≠ 'E'

theorem EndsNumber.dropWhile {rest : List Char} (ends : EndsNumber rest) :
    rest.dropWhile Decimal.isDigit = rest := by
  cases rest with
  | nil => rfl
  | cons c rest =>
    have no_digit := (ends c rfl).1
    rw [List.dropWhile_cons_of_neg (by simp [no_digit])]

theorem skipWhole?_digits (n : Nat) {rest : List Char} (ends : EndsNumber rest) :
    skipWhole? (Decimal.digits n ++ rest) = some rest := by
  by_cases zero : n = 0
  · subst zero
    rfl
  · have begun : Decimal.digits n ≠ [] := Nat.toDigits_ne_nil
    obtain ⟨d, ds, split⟩ := List.exists_cons_of_ne_nil begun
    have all_digits : ∀ c ∈ d :: ds, Decimal.isDigit c = true := by
      rw [← split]
      exact fun c member => Decimal.isDigit_of_mem_digits member
    obtain ⟨first_digit, other_digits⟩ := List.forall_mem_cons.1 all_digits
    have no_zero : d ≠ '0' := by
      intro same
      refine Decimal.head?_digits_ne_zero (Nat.pos_of_ne_zero zero) ?_
      rw [split, same, List.head?_cons]
    rw [split, List.cons_append, skipWhole?.eq_def]
    split
    · rename_i same
      exact absurd (List.cons.inj same).1 no_zero
    · rw [skipDigits?, if_pos first_digit, List.dropWhile_append_of_pos other_digits,
        ends.dropWhile]

theorem EndsNumber.skipFraction? {rest : List Char} (ends : EndsNumber rest) :
    skipFraction? rest = some rest := by
  rw [Json.skipFraction?.eq_def]
  split
  · exact absurd rfl (ends '.' rfl).2.1
  · rfl

theorem EndsNumber.skipExponent? {rest : List Char} (ends : EndsNumber rest) :
    skipExponent? rest = some rest := by
  cases rest with
  | nil => rfl
  | cons c rest =>
    obtain ⟨-, -, small, capital⟩ := ends c rfl
    unfold Json.skipExponent?
    dsimp only
    rw [if_neg (by simp [small, capital])]

/-- The numeral of a natural is read as that natural. -/
theorem readNumber?_repr (n : Nat) {rest : List Char} (ends : EndsNumber rest) :
    readNumber? ((Nat.repr n).toList ++ rest) = some (natural n, rest) := by
  have written : (Nat.repr n).toList = Decimal.digits n := Nat.toList_repr
  have length : (Decimal.digits n ++ rest).length - rest.length = (Decimal.digits n).length := by
    rw [List.length_append, Nat.add_sub_cancel]
  rw [written, readNumber?, skipWhole?_digits n ends, Option.bind_eq_bind, Option.bind_some,
    ends.skipFraction?]
  show (Json.skipExponent? rest).bind _ = _
  rw [ends.skipExponent?, Option.bind_some, if_pos rfl, length, List.take_left,
    Decimal.value_digits]
  rfl

/-- A text that begins with a digit is read as a number. -/
theorem readValue?_digit (fuel : Nat) {d : Char} (digit : Decimal.isDigit d = true)
    (rest : List Char) : readValue? (fuel + 1) (d :: rest) = readNumber? (d :: rest) := by
  -- no other kind of value, and no blank, begins with a digit
  have not_digit {c : Char} (other : Decimal.isDigit c = false) : d ≠ c := by
    intro same
    rw [same, other] at digit
    contradiction
  have unblanked : skipBlanks (d :: rest) = d :: rest := by
    have blank : d ≠ ' ' := not_digit (by decide)
    have tab : d ≠ '\t' := not_digit (by decide)
    have feed : d ≠ '\n' := not_digit (by decide)
    have returned : d ≠ '\r' := not_digit (by decide)
    rw [skipBlanks, if_neg (by simp [blank, tab, feed, returned])]
  rw [readValue?.eq_def]
  dsimp only
  rw [unblanked]
  split
  all_goals first
    | rfl
    | rename_i same
      exact absurd (List.cons.inj same).1 (not_digit (by decide))

/-! ### Values and members -/

theorem readValue?_blank (fuel : Nat) (cs : List Char) :
    readValue? (fuel + 1) (' ' :: cs) = readValue? (fuel + 1) cs := by
  have skipped : skipBlanks (' ' :: cs) = skipBlanks cs := rfl
  rw [readValue?.eq_def, readValue?.eq_def _ cs]
  dsimp only
  rw [skipped]

/-- The numeral of a natural is read as a value. -/
theorem readValue?_repr (fuel n : Nat) {rest : List Char} (ends : EndsNumber rest) :
    readValue? (fuel + 1) ((Nat.repr n).toList ++ rest) = some (natural n, rest) := by
  have begun : (Nat.repr n).toList ≠ [] := by
    rw [Nat.toList_repr]
    exact Nat.toDigits_ne_nil
  obtain ⟨d, ds, split⟩ := List.exists_cons_of_ne_nil begun
  have digit : Decimal.isDigit d = true := by
    refine Decimal.isDigit_of_mem_digits (n := n) ?_
    rw [Decimal.digits, ← Nat.toList_repr, split]
    exact List.mem_cons_self
  rw [← readNumber?_repr n ends, split]
  exact readValue?_digit fuel digit (ds ++ rest)

/-- A quoted text is read as a value. -/
theorem readValue?_quote (fuel : Nat) (s : String) (rest : List Char) :
    readValue? (fuel + 1) ((quote s).toList ++ rest) = some (text (some s), rest) := by
  have written : (quote s).toList ++ rest = '"' :: (s.toList.flatMap quoteChar ++ '"' :: rest) := by
    simp [quote]
  rw [written, readValue?.eq_def]
  show (readText? (s.toList.flatMap quoteChar ++ '"' :: rest)).map _ = _
  rw [readText?_quoted]
  rfl

section Members

variable {fuel : Nat} {name : String} {value : Json} {cs valueText rest : List Char}

theorem quote_colon (name : String) (valueText : List Char) :
    (quote name).toList ++ ':' :: valueText =
      '"' :: (name.toList.flatMap quoteChar ++ '"' :: ':' :: valueText) := by
  simp [quote]

/-- A member of an object with others behind it. -/
theorem readMembers?_cons {others : List Char}
    (begun : skipBlanks cs = (quote name).toList ++ ':' :: valueText)
    (read : readValue? fuel valueText = some (value, rest))
    (ends : skipBlanks rest = ',' :: others) :
    readMembers? (fuel + 1) cs =
      (readMembers? fuel others).map fun (members, after) =>
        ((some name, value) :: members, after) := by
  have colon : skipBlanks (':' :: valueText) = ':' :: valueText := rfl
  rw [readMembers?, begun, quote_colon]
  simp only [readText?_quoted, colon, read, ends]

/-- The last member of an object. -/
theorem readMembers?_singleton {after : List Char}
    (begun : skipBlanks cs = (quote name).toList ++ ':' :: valueText)
    (read : readValue? fuel valueText = some (value, rest))
    (ends : skipBlanks rest = '}' :: after) :
    readMembers? (fuel + 1) cs = some ([(some name, value)], after) := by
  have colon : skipBlanks (':' :: valueText) = ':' :: valueText := rfl
  rw [readMembers?, begun, quote_colon]
  simp only [readText?_quoted, colon, read, ends]

/-- An object is read as its members. -/
theorem readValue?_object {members : List (Option String × Json)}
    (begun : skipBlanks cs = (quote name).toList ++ ':' :: valueText)
    (read : readMembers? fuel cs = some (members, rest)) :
    readValue? (fuel + 1) ('{' :: cs) = some (object members, rest) := by
  have unblanked : skipBlanks ('{' :: cs) = '{' :: cs := rfl
  rw [readValue?, unblanked]
  simp only [begun, quote_colon, read]
  rfl

end Members

end Json

end RankedRetrieval
