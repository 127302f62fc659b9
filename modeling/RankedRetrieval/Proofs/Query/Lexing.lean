import RankedRetrieval.Proofs.Outcome
import RankedRetrieval.Query.Parser

/-!
# The words of the query language

What the tokens of a text are, which words are keywords, and what a term word says, stated
without the functions that find it out.

## Main Definitions

* `Tokenized` — a text with its tokens
* `Keyword` — a keyword with its operator
* `Reserved` — the words that are keywords or begin like one with a distance
* `TermWord` — a word with the text and the field of its terms

## Main Results

* `tokenized_iff` — the tokens of a text are the ones that are read from it
* `keyword?_eq_some_iff`, `keyword?_eq_none_iff` — how a word is recognised
* `splitField_eq_ok_iff` — how a word is split
-/

namespace RankedRetrieval.Query

/-! ### Tokens -/

/-- The characters that only separate tokens. -/
def separators : List Char := [' ', '\t', '\n', '\r', ',', '(']

/-- A text with its tokens: closing parentheses and maximal words. -/
inductive Tokenized : List Char → List Token → Prop where
  /-- The empty text has no tokens. -/
  | nil : Tokenized [] []
  /-- A separator is no token. -/
  | separator {c : Char} {rest : List Char} {tokens : List Token} (separates : c ∈ separators)
      (later : Tokenized rest tokens) : Tokenized (c :: rest) tokens
  /-- A closing parenthesis is a token. -/
  | close {rest : List Char} {tokens : List Token} (later : Tokenized rest tokens) :
      Tokenized (')' :: rest) (.close :: tokens)
  /-- A word reaches up to a separator, a closing parenthesis or the end. -/
  | word {chars rest : List Char} {tokens : List Token} (nonempty : chars ≠ [])
      (within : ∀ c ∈ chars, c ∉ separators ∧ c ≠ ')')
      (ends : ∀ c ∈ rest.head?, c ∈ separators ∨ c = ')') (later : Tokenized rest tokens) :
      Tokenized (chars ++ rest) (.word (String.ofList chars) :: tokens)

theorem isDelimiter_iff {c : Char} :
    Token.isDelimiter c = true ↔ c ∈ separators ∨ c = ')' := by
  simp only [Token.isDelimiter, separators, Bool.or_eq_true, decide_eq_true_eq, List.mem_cons,
    List.not_mem_nil, or_false, or_assoc]

theorem isDelimiter_eq_false_iff {c : Char} :
    Token.isDelimiter c = false ↔ c ∉ separators ∧ c ≠ ')' := by
  rw [← Bool.not_eq_true, isDelimiter_iff, not_or]

/-- Characters of a word are collected. -/
theorem lexAfter_append {chars : List Char} (within : ∀ c ∈ chars, Token.isDelimiter c = false)
    (word rest : List Char) :
    Token.lexAfter word (chars ++ rest) = Token.lexAfter (chars.reverse ++ word) rest := by
  induction chars generalizing word with
  | nil => rfl
  | cons c chars ih =>
    obtain ⟨head, tail⟩ := List.forall_mem_cons.1 within
    rw [List.cons_append, Token.lexAfter, head, if_neg (by decide), ih tail, List.reverse_cons,
      List.append_assoc, List.singleton_append]

/-- A word that has been collected is a token of its own where it ends. -/
theorem lexAfter_of_ends {rest : List Char}
    (ends : ∀ c ∈ rest.head?, Token.isDelimiter c = true) (word : List Char) :
    Token.lexAfter word rest = Token.flush word (Token.lexAfter [] rest) := by
  cases rest with
  | nil => rfl
  | cons c rest =>
    have delimits : Token.isDelimiter c = true := ends c rfl
    simp [Token.lexAfter, delimits, Token.flush]

theorem flush_of_ne_nil {chars : List Char} (nonempty : chars ≠ []) (tokens : List Token) :
    Token.flush chars.reverse tokens = .word (String.ofList chars) :: tokens := by
  simp [Token.flush, nonempty]

theorem Tokenized.lexAfter_eq {chars : List Char} {tokens : List Token}
    (tokenized : Tokenized chars tokens) : Token.lexAfter [] chars = tokens := by
  induction tokenized with
  | nil => rfl
  | @separator c rest tokens separates _ ih =>
    have delimits : Token.isDelimiter c = true := isDelimiter_iff.2 (.inl separates)
    have not_close : c ≠ ')' := by
      rintro rfl
      revert separates
      decide
    simp [Token.lexAfter, delimits, not_close, Token.flush, ih]
  | close _ ih => simp [Token.lexAfter, Token.isDelimiter, Token.flush, ih]
  | word nonempty within ends _ ih =>
    rw [lexAfter_append fun c hc => isDelimiter_eq_false_iff.2 (within c hc), List.append_nil,
      lexAfter_of_ends fun c hc => isDelimiter_iff.2 (ends c hc), flush_of_ne_nil nonempty, ih]

/-- The tokens after a word that has begun are those of the word and what follows. -/
theorem tokenized_lexAfter (chars word : List Char)
    (within : ∀ c ∈ word, Token.isDelimiter c = false) :
    Tokenized (word.reverse ++ chars) (Token.lexAfter word chars) := by
  have put_word {rest : List Char} {tokens : List Token} {word : List Char}
      (within : ∀ c ∈ word, Token.isDelimiter c = false)
      (ends : ∀ c ∈ rest.head?, Token.isDelimiter c = true) (later : Tokenized rest tokens) :
      Tokenized (word.reverse ++ rest) (Token.flush word tokens) := by
    cases word with
    | nil => exact later
    | cons c word =>
      exact .word (by simp)
        (fun d hd => isDelimiter_eq_false_iff.1 (within d (List.mem_reverse.1 hd)))
        (fun d hd => isDelimiter_iff.1 (ends d hd)) later
  induction chars generalizing word with
  | nil => exact put_word within (by simp) .nil
  | cons c rest ih =>
    rw [Token.lexAfter]
    split
    · rename_i delimits
      refine put_word within (by simpa using delimits) ?_
      have later := ih [] (by simp)
      split
      · rename_i closes
        rw [closes]
        exact .close later
      · rename_i not_close
        exact .separator ((isDelimiter_iff.1 delimits).resolve_right not_close) later
    · rename_i continues
      have longer := ih (c :: word)
        (List.forall_mem_cons.2 ⟨Bool.eq_false_iff.2 continues, within⟩)
      rwa [List.reverse_cons, List.append_assoc, List.singleton_append] at longer

/-- The tokens of a text are the ones that are read from it. -/
theorem tokenized_iff {source : String} {tokens : List Token} :
    Tokenized source.toList tokens ↔ Token.lex source = tokens := by
  constructor
  · exact Tokenized.lexAfter_eq
  · rintro rfl
    exact tokenized_lexAfter source.toList [] (by simp)

/-! ### Keywords -/

/-- The operators whose keyword carries no distance. -/
def plainOperators : List Operator := [.or, .and, .wand, .sum, .wsum, .syn]

/-- A keyword, in any letter case, with its operator. -/
inductive Keyword (word : String) : Operator → Prop where
  /-- The keyword of an operator without a distance. -/
  | plain {op : Operator} (plain : op ∈ plainOperators)
      (spelled : Text.lowerAscii word = op.text) : Keyword word op
  /-- The keyword of ordered occurrences, with a positive distance of 32 bits. -/
  | near {n : Nat} {digits : String} (spelled : Text.lowerAscii word = "#near/" ++ digits)
      (read : Decimal.readNat Decimal.greatestWord digits = .ok n) (positive : 0 < n) :
      Keyword word (.near n)
  /-- The keyword of unordered occurrences, with a positive size of 32 bits. -/
  | window {n : Nat} {digits : String} (spelled : Text.lowerAscii word = "#window/" ++ digits)
      (read : Decimal.readNat Decimal.greatestWord digits = .ok n) (positive : 0 < n) :
      Keyword word (.window n)

/-- The words that are keywords or begin like one with a distance. -/
def Reserved (word : String) : Prop :=
  (∃ op ∈ plainOperators, Text.lowerAscii word = op.text) ∨
    (∃ digits, Text.lowerAscii word = "#near/" ++ digits) ∨
    ∃ digits, Text.lowerAscii word = "#window/" ++ digits

theorem dropStart?_eq_some_iff {start text rest : String} :
    Token.dropStart? start text = some rest ↔ text = start ++ rest := by
  unfold Token.dropStart?
  constructor
  · intro dropped
    split at dropped
    · rename_i begins
      obtain ⟨tail, split⟩ := List.isPrefixOf_iff_prefix.1 begins
      obtain rfl := Option.some.inj dropped
      rw [← String.toList_inj, String.toList_append, String.toList_ofList, ← split,
        ← String.length_toList, List.drop_left]
    · simp at dropped
  · rintro rfl
    have begins : start.toList.isPrefixOf (start ++ rest).toList = true :=
      List.isPrefixOf_iff_prefix.2 ⟨rest.toList, (String.toList_append).symm⟩
    rw [if_pos begins, String.toList_append, ← String.length_toList, List.drop_left,
      String.ofList_toList]

theorem distance_eq_ok_iff {word digits : String} {n : Nat} :
    Token.distance word digits = .ok n ↔
      Decimal.readNat Decimal.greatestWord digits = .ok n ∧ 0 < n := by
  unfold Token.distance
  cases Decimal.readNat Decimal.greatestWord digits with
  | error e => simp
  | ok m =>
    cases m with
    | zero =>
      simp only [Except.ok.injEq, reduceCtorEq, false_iff, not_and]
      rintro rfl
      exact Nat.lt_irrefl 0
    | succ m =>
      simp only [Except.ok.injEq]
      constructor
      · rintro rfl
        exact ⟨rfl, Nat.succ_pos m⟩
      · exact fun read => read.1

/-- What recognising a word comes to, by its spelling. -/
theorem keyword?_cases (word : String) :
    (∃ op ∈ plainOperators, Text.lowerAscii word = op.text ∧
        Token.keyword? word = .ok (some op)) ∨
      (∃ digits, Text.lowerAscii word = "#near/" ++ digits ∧
        Token.keyword? word = (Token.distance word digits).map fun n => some (.near n)) ∨
      (∃ digits, Text.lowerAscii word = "#window/" ++ digits ∧
        Token.keyword? word = (Token.distance word digits).map fun n => some (.window n)) ∨
      (¬ Reserved word ∧ Token.keyword? word = .ok none) := by
  unfold Token.keyword?
  split
  · exact .inl ⟨.or, by decide, by assumption, rfl⟩
  · exact .inl ⟨.and, by decide, by assumption, rfl⟩
  · exact .inl ⟨.wand, by decide, by assumption, rfl⟩
  · exact .inl ⟨.sum, by decide, by assumption, rfl⟩
  · exact .inl ⟨.wsum, by decide, by assumption, rfl⟩
  · exact .inl ⟨.syn, by decide, by assumption, rfl⟩
  · rename_i not_or not_and not_wand not_sum not_wsum not_syn
    refine .inr ?_
    cases near : Token.dropStart? "#near/" (Text.lowerAscii word) with
    | some digits => exact .inl ⟨digits, dropStart?_eq_some_iff.1 near, rfl⟩
    | none =>
      refine .inr ?_
      cases window : Token.dropStart? "#window/" (Text.lowerAscii word) with
      | some digits => exact .inl ⟨digits, dropStart?_eq_some_iff.1 window, rfl⟩
      | none =>
        refine .inr ⟨?_, rfl⟩
        rintro (⟨op, plain, spelled⟩ | ⟨digits, spelled⟩ | ⟨digits, spelled⟩)
        · simp only [plainOperators, List.mem_cons, List.not_mem_nil, or_false] at plain
          rcases plain with rfl | rfl | rfl | rfl | rfl | rfl
          · exact not_or spelled
          · exact not_and spelled
          · exact not_wand spelled
          · exact not_sum spelled
          · exact not_wsum spelled
          · exact not_syn spelled
        · rw [dropStart?_eq_some_iff.2 spelled] at near
          simp at near
        · rw [dropStart?_eq_some_iff.2 spelled] at window
          simp at window

/-- Spellings of different kinds differ in their first letters. -/
theorem ne_of_take_ne {s t : String} (differ : s.toList.take 3 ≠ t.toList.take 3) : s ≠ t :=
  fun same => differ (by rw [same])

theorem text_ne_of_mem_plainOperators {op : Operator} (plain : op ∈ plainOperators)
    (digits : String) : op.text ≠ "#near/" ++ digits ∧ op.text ≠ "#window/" ++ digits := by
  simp only [plainOperators, List.mem_cons, List.not_mem_nil, or_false] at plain
  rcases plain with rfl | rfl | rfl | rfl | rfl | rfl <;>
    exact ⟨ne_of_take_ne (by simp [Operator.text]), ne_of_take_ne (by simp [Operator.text])⟩

theorem text_injective_of_plain {op other : Operator} (plain : op ∈ plainOperators)
    (other_plain : other ∈ plainOperators) (same : op.text = other.text) : op = other := by
  simp only [plainOperators, List.mem_cons, List.not_mem_nil, or_false] at plain other_plain
  rcases plain with rfl | rfl | rfl | rfl | rfl | rfl <;>
    rcases other_plain with rfl | rfl | rfl | rfl | rfl | rfl <;>
    first | rfl | simp [Operator.text] at same

theorem near_ne_window (digits other : String) : "#near/" ++ digits ≠ "#window/" ++ other :=
  ne_of_take_ne (by simp)

theorem keyword?_of_plain {word : String} {op : Operator} (plain : op ∈ plainOperators)
    (spelled : Text.lowerAscii word = op.text) : Token.keyword? word = .ok (some op) := by
  rcases keyword?_cases word with ⟨other, other_plain, other_spelled, found⟩ | rest
  · rw [found, text_injective_of_plain other_plain plain (other_spelled.symm.trans spelled)]
  rw [spelled] at rest
  rcases rest with ⟨digits, other, -⟩ | ⟨digits, other, -⟩ | ⟨free, -⟩
  · exact absurd other (text_ne_of_mem_plainOperators plain digits).1
  · exact absurd other (text_ne_of_mem_plainOperators plain digits).2
  · exact absurd (.inl ⟨op, plain, spelled⟩) free

theorem keyword?_of_near {word digits : String}
    (spelled : Text.lowerAscii word = "#near/" ++ digits) :
    Token.keyword? word = (Token.distance word digits).map fun n => some (.near n) := by
  rcases keyword?_cases word with ⟨op, plain, other, -⟩ | rest
  · exact absurd (other.symm.trans spelled) (text_ne_of_mem_plainOperators plain digits).1
  rcases rest with ⟨others, other, found⟩ | ⟨others, other, -⟩ | ⟨free, -⟩
  · rw [found, (String.append_right_inj "#near/").1 (other.symm.trans spelled)]
  · exact absurd (spelled.symm.trans other) (near_ne_window digits others)
  · exact absurd (.inr (.inl ⟨digits, spelled⟩)) free

theorem keyword?_of_window {word digits : String}
    (spelled : Text.lowerAscii word = "#window/" ++ digits) :
    Token.keyword? word = (Token.distance word digits).map fun n => some (.window n) := by
  rcases keyword?_cases word with ⟨op, plain, other, -⟩ | rest
  · exact absurd (other.symm.trans spelled) (text_ne_of_mem_plainOperators plain digits).2
  rcases rest with ⟨others, other, -⟩ | ⟨others, other, found⟩ | ⟨free, -⟩
  · exact absurd (other.symm.trans spelled) (near_ne_window others digits)
  · rw [found, (String.append_right_inj "#window/").1 (other.symm.trans spelled)]
  · exact absurd (.inr (.inr ⟨digits, spelled⟩)) free

/-- A distance that is recognised is a positive number. -/
theorem map_distance_eq_ok {word digits : String} {make : Nat → Operator} {op? : Option Operator}
    (found : (Token.distance word digits).map (fun n => some (make n)) = .ok op?) :
    ∃ n, Decimal.readNat Decimal.greatestWord digits = .ok n ∧ 0 < n ∧ op? = some (make n) := by
  obtain ⟨n, distance, same⟩ := Except.map_eq_ok_iff.1 found
  obtain ⟨read, positive⟩ := distance_eq_ok_iff.1 distance
  exact ⟨n, read, positive, same.symm⟩

/-- The words that are recognised as the keyword of an operator. -/
theorem keyword?_eq_some_iff {word : String} {op : Operator} :
    Token.keyword? word = .ok (some op) ↔ Keyword word op := by
  constructor
  · intro found
    rcases keyword?_cases word with ⟨other, plain, spelled, recognised⟩ |
        ⟨digits, spelled, recognised⟩ | ⟨digits, spelled, recognised⟩ | ⟨-, recognised⟩
    · obtain rfl : other = op := by simpa using recognised.symm.trans found
      exact .plain plain spelled
    · obtain ⟨n, read, positive, same⟩ := map_distance_eq_ok (recognised.symm.trans found)
      obtain rfl := Option.some.inj same
      exact .near spelled read positive
    · obtain ⟨n, read, positive, same⟩ := map_distance_eq_ok (recognised.symm.trans found)
      obtain rfl := Option.some.inj same
      exact .window spelled read positive
    · simpa using recognised.symm.trans found
  · intro keyword
    cases keyword with
    | plain plain spelled => exact keyword?_of_plain plain spelled
    | near spelled read positive =>
      rw [keyword?_of_near spelled, distance_eq_ok_iff.2 ⟨read, positive⟩]
      rfl
    | window spelled read positive =>
      rw [keyword?_of_window spelled, distance_eq_ok_iff.2 ⟨read, positive⟩]
      rfl

/-- The words that are recognised as no keyword. -/
theorem keyword?_eq_none_iff {word : String} :
    Token.keyword? word = .ok none ↔ ¬ Reserved word := by
  rcases keyword?_cases word with ⟨op, plain, spelled, recognised⟩ |
      ⟨digits, spelled, recognised⟩ | ⟨digits, spelled, recognised⟩ | ⟨free, recognised⟩
  · rw [recognised]
    exact iff_of_false (by simp) (not_not_intro (.inl ⟨op, plain, spelled⟩))
  · refine iff_of_false (fun none_found => ?_) (not_not_intro (.inr (.inl ⟨digits, spelled⟩)))
    obtain ⟨n, -, -, same⟩ := map_distance_eq_ok (recognised.symm.trans none_found)
    simp at same
  · refine iff_of_false (fun none_found => ?_) (not_not_intro (.inr (.inr ⟨digits, spelled⟩)))
    obtain ⟨n, -, -, same⟩ := map_distance_eq_ok (recognised.symm.trans none_found)
    simp at same
  · exact iff_of_true recognised free

/-! ### Terms -/

/-- A word with the text of its terms and the field that it names behind its first point, in
any letter case. -/
inductive TermWord : String → String → String → Prop where
  /-- A word without a point is in the usual field. -/
  | plain {word : String} (undotted : '.' ∉ word.toList) : TermWord word word defaultField
  /-- What follows the first point names a field. -/
  | dotted {text name field : String} (undotted : '.' ∉ text.toList)
      (lowered : field = String.ofList (Unicode.lowerCase name.toList))
      (allowed : field ∈ fields) : TermWord (text ++ "." ++ name) text field

theorem splitOnceChars?_eq_none_iff {separator : Char} {chars : List Char} :
    Text.splitOnceChars? separator chars = none ↔ separator ∉ chars := by
  induction chars with
  | nil => simp [Text.splitOnceChars?]
  | cons c rest ih =>
    rw [Text.splitOnceChars?]
    split
    · rename_i same
      simp [same]
    · rename_i other
      rw [Option.map_eq_none_iff, ih, List.mem_cons, not_or]
      exact ⟨fun rest => ⟨fun same => other same.symm, rest⟩, fun both => both.2⟩

theorem splitOnceChars?_eq_some_iff {separator : Char} {chars first second : List Char} :
    Text.splitOnceChars? separator chars = some (first, second) ↔
      separator ∉ first ∧ chars = first ++ separator :: second := by
  induction chars generalizing first with
  | nil => simp [Text.splitOnceChars?]
  | cons c rest ih =>
    rw [Text.splitOnceChars?]
    split
    · rename_i same
      cases first with
      | nil => simp [same, eq_comm]
      | cons d first =>
        refine iff_of_false (by simp) fun ⟨free, split⟩ => free ?_
        rw [← same, (List.cons.inj split).1]
        exact List.mem_cons_self
    · rename_i other
      cases first with
      | nil =>
        refine iff_of_false (by simp) fun ⟨_, split⟩ => other (List.cons.inj split).1
      | cons d first =>
        rw [Option.map_eq_some_iff]
        constructor
        · rintro ⟨⟨first', second'⟩, found, same⟩
          obtain ⟨⟨rfl, rfl⟩, rfl⟩ : (c = d ∧ first' = first) ∧ second' = second := by
            simpa using same
          obtain ⟨free, rfl⟩ := ih.1 found
          refine ⟨fun member => ?_, rfl⟩
          rcases List.mem_cons.1 member with rfl | later
          · exact other rfl
          · exact free later
        · rintro ⟨free, split⟩
          obtain ⟨rfl, rfl⟩ := List.cons.inj split
          exact ⟨(first, second),
            ih.2 ⟨fun member => free (List.mem_cons_of_mem c member), rfl⟩, rfl⟩

theorem splitOnce?_eq_none_iff {separator : Char} {text : String} :
    Text.splitOnce? separator text = none ↔ separator ∉ text.toList := by
  rw [Text.splitOnce?, Option.map_eq_none_iff, splitOnceChars?_eq_none_iff]

theorem splitOnce?_eq_some_iff {separator : Char} {text first second : String} :
    Text.splitOnce? separator text = some (first, second) ↔
      separator ∉ first.toList ∧ text.toList = first.toList ++ separator :: second.toList := by
  rw [← splitOnceChars?_eq_some_iff, Text.splitOnce?, Option.map_eq_some_iff]
  constructor
  · rintro ⟨sides, found, same⟩
    obtain ⟨rfl, rfl⟩ := Prod.mk.inj same
    rw [String.toList_ofList, String.toList_ofList, found]
  · intro found
    exact ⟨_, found, by simp only [String.ofList_toList]⟩

/-- The words that are split into a text and a field. -/
theorem splitField_eq_ok_iff {word text field : String} :
    splitField word = .ok (text, field) ↔ TermWord word text field := by
  constructor
  · intro split
    unfold splitField at split
    cases sides : Text.splitOnce? '.' word with
    | none =>
      rw [sides] at split
      obtain ⟨rfl, rfl⟩ : word = text ∧ defaultField = field := by simpa using split
      exact .plain (splitOnce?_eq_none_iff.1 sides)
    | some sides' =>
      obtain ⟨first, name⟩ := sides'
      rw [sides] at split
      dsimp only at split
      split at split
      · rename_i allowed
        obtain ⟨rfl, rfl⟩ : first = text ∧
            String.ofList (Unicode.lowerCase name.toList) = field := by
          simpa using split
        obtain ⟨undotted, joined⟩ := splitOnce?_eq_some_iff.1 sides
        obtain rfl : word = first ++ "." ++ name := by
          rw [← String.toList_inj, joined]
          simp
        exact .dotted undotted rfl (by simpa using allowed)
      · simp at split
  · intro term
    cases term with
    | plain undotted => rw [splitField, splitOnce?_eq_none_iff.2 undotted]
    | @dotted _ name _ undotted lowered allowed =>
      have sides : Text.splitOnce? '.' (text ++ "." ++ name) = some (text, name) :=
        splitOnce?_eq_some_iff.2 ⟨undotted, by simp⟩
      subst lowered
      rw [splitField, sides]
      exact if_pos (by simpa using allowed)

end RankedRetrieval.Query
