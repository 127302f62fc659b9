import RankedRetrieval.Proofs.Decimal.Texts
import RankedRetrieval.Proofs.Query.Grammar
import RankedRetrieval.Proofs.Text.Stems

/-!
# Printing of queries

The text of a printable query consists of tokens that derive the query from the grammar.

## Main Definitions

* `Query.textTokens` — the tokens of the text of a query
* `Query.Printable` — a query whose text says all of it

## Main Results

* `Query.tokenized_text` — the text of a printable query has these tokens
* `Query.item_textTokens` — they are an item that denotes the query

## Design Notes

`score` does not show in a text, so the item of a scored query denotes what is scored
(`unwrapScore`); standing under a structural operator puts `score` back
(`Printable.under_unwrapScore`).
-/

namespace RankedRetrieval.Query

variable {α : Type} [Numeral α]

/-! ### Characters of words -/

/-- A text that is a word by itself: neither empty nor interrupted, and without the mark of a
keyword. -/
structure PlainWord (word : String) : Prop where
  /-- It has characters. -/
  nonempty : word.toList ≠ []
  /-- None of them ends a word. -/
  within : ∀ c ∈ word.toList, c ∉ separators ∧ c ≠ ')'
  /-- None of them is the mark of a keyword. -/
  unmarked : '#' ∉ word.toList

theorem toLower_eq_of_isDigit {c : Char} (digit : Decimal.isDigit c = true) : c.toLower = c := by
  rw [Decimal.isDigit_eq] at digit
  simp only [Char.isDigit, Bool.and_eq_true, decide_eq_true_eq] at digit
  unfold Char.toLower
  rw [dif_neg]
  rintro ⟨upper, -⟩
  exact absurd (UInt32.le_trans upper digit.2) (by decide)

theorem eq_hash_of_toLower {c : Char} (mark : c.toLower = '#') : c = '#' := by
  unfold Char.toLower at mark
  split at mark
  · rename_i upper
    have value := congrArg Char.val mark
    have low := UInt32.le_iff_toNat_le.1 upper.1
    have high := UInt32.le_iff_toNat_le.1 upper.2
    have shifted := congrArg UInt32.toNat value
    simp only [UInt32.toNat_add, UInt32.toNat_sub] at shifted
    simp at low high shifted
    omega
  · exact mark

/-- Without the mark of a keyword a word is free. -/
theorem not_reserved_of_unmarked {word : String} (unmarked : '#' ∉ word.toList) :
    ¬ Reserved word := by
  have begins (rest : String) (spelled : Text.lowerAscii word = "#" ++ rest) : False := by
    have marked : '#' ∈ (Text.lowerAscii word).toList := by
      rw [spelled, String.toList_append]
      exact List.mem_append_left _ (by decide)
    rw [Text.lowerAscii, String.toList_ofList] at marked
    obtain ⟨c, hc, mark⟩ := List.mem_map.1 marked
    exact unmarked (eq_hash_of_toLower mark ▸ hc)
  rintro (⟨op, plain, spelled⟩ | ⟨digits, spelled⟩ | ⟨digits, spelled⟩)
  · simp only [plainOperators, List.mem_cons, List.not_mem_nil, or_false] at plain
    rcases plain with rfl | rfl | rfl | rfl | rfl | rfl
    · exact begins "or" spelled
    · exact begins "and" spelled
    · exact begins "wand" spelled
    · exact begins "sum" spelled
    · exact begins "wsum" spelled
    · exact begins "syn" spelled
  · exact begins ("near/" ++ digits) (by rw [spelled, ← String.append_assoc]; rfl)
  · exact begins ("window/" ++ digits) (by rw [spelled, ← String.append_assoc]; rfl)

theorem not_ends_of_isDigit {c : Char} (digit : Decimal.isDigit c = true) :
    c ∉ separators ∧ c ≠ ')' := by
  have none_digits : ∀ d ∈ ')' :: separators, Decimal.isDigit d = false := by decide
  have not_member : c ∉ ')' :: separators := by
    intro member
    rw [none_digits c member] at digit
    simp at digit
  rw [List.mem_cons, not_or] at not_member
  exact ⟨not_member.2, not_member.1⟩

/-- What a number is written as is a word by itself. -/
theorem plainWord_of_numberText {word : String} (written : Decimal.NumberText word) :
    PlainWord word := by
  have plain {c : Char} (numeral : Decimal.NumeralChar c) :
      (c ∉ separators ∧ c ≠ ')') ∧ c ≠ '#' := by
    rcases numeral with digit | letter
    · refine ⟨not_ends_of_isDigit digit, ?_⟩
      rintro rfl
      exact absurd digit (by decide)
    · have all_plain : ∀ d ∈ ['-', '.', 'N', 'a', 'i', 'n', 'f'],
          (d ∉ separators ∧ d ≠ ')') ∧ d ≠ '#' := by decide
      exact all_plain c letter
  exact
    { nonempty := written.ne_nil
      within c member := (plain (written.numeralChar c member)).1
      unmarked member := (plain (written.numeralChar '#' member)).2 rfl }

theorem PlainWord.weight {word : String} {weight : α} (plain : PlainWord word)
    (read : Numeral.read word = .ok weight) : Weight word weight :=
  ⟨not_reserved_of_unmarked plain.unmarked, read⟩

/-! ### Keywords -/

/-- The distance of an operator, if it has one, is a positive word of 32 bits. -/
def BoundedDistance (op : Operator) : Prop :=
  ∀ n, op = .near n ∨ op = .window n → 0 < n ∧ n ≤ Decimal.greatestWord

theorem lowerAscii_of_toLower {text : String} (lower : ∀ c ∈ text.toList, c.toLower = c) :
    Text.lowerAscii text = text := by
  rw [Text.lowerAscii, List.map_congr_left lower, List.map_id', String.ofList_toList]

theorem toLower_append_repr {start : String} (lower : ∀ c ∈ start.toList, c.toLower = c)
    (n : Nat) : ∀ c ∈ (start ++ Nat.repr n).toList, c.toLower = c := by
  rw [String.toList_append, Nat.toList_repr]
  intro c member
  rcases List.mem_append.1 member with first | digit
  · exact lower c first
  · exact toLower_eq_of_isDigit (Decimal.isDigit_of_mem_digits digit)

/-- The text of an operator is its keyword. -/
theorem keyword_text {op : Operator} (not_score : op ≠ .score) (bounded : BoundedDistance op) :
    Keyword op.text op := by
  cases op with
  | score => exact absurd rfl not_score
  | or | and | wand | sum | wsum | syn =>
    exact .plain (by decide) (lowerAscii_of_toLower (by decide))
  | near n =>
    obtain ⟨positive, fits⟩ := bounded n (.inl rfl)
    exact .near (lowerAscii_of_toLower (toLower_append_repr (by decide) n))
      (Decimal.readNat_repr fits) positive
  | window n =>
    obtain ⟨positive, fits⟩ := bounded n (.inr rfl)
    exact .window (lowerAscii_of_toLower (toLower_append_repr (by decide) n))
      (Decimal.readNat_repr fits) positive

theorem not_ends_append_repr {start : String}
    (within : ∀ c ∈ start.toList, c ∉ separators ∧ c ≠ ')') (n : Nat) :
    ∀ c ∈ (start ++ Nat.repr n).toList, c ∉ separators ∧ c ≠ ')' := by
  rw [String.toList_append, Nat.toList_repr]
  intro c member
  rcases List.mem_append.1 member with first | digit
  · exact within c first
  · exact not_ends_of_isDigit (Decimal.isDigit_of_mem_digits digit)

theorem operator_text_within (op : Operator) :
    ∀ c ∈ op.text.toList, c ∉ separators ∧ c ≠ ')' := by
  cases op with
  | near n => exact not_ends_append_repr (by decide) n
  | window n => exact not_ends_append_repr (by decide) n
  | syn | score | or | and | wand | sum | wsum => decide

theorem operator_text_ne_nil (op : Operator) : op.text.toList ≠ [] := by
  cases op with
  | near n | window n =>
    rw [Operator.text, String.toList_append]
    exact List.append_ne_nil_of_left_ne_nil (by decide) _
  | syn | score | or | and | wand | sum | wsum => decide

/-! ### Joining texts -/

theorem Tokenized.append {first second : List Char} {tokens others : List Token}
    (left : Tokenized first tokens) (ends : ∀ c ∈ second.head?, c ∈ separators ∨ c = ')')
    (right : Tokenized second others) : Tokenized (first ++ second) (tokens ++ others) := by
  induction left with
  | nil => exact right
  | separator separates _ ih => exact .separator separates ih
  | close _ ih => exact .close ih
  | @word chars rest tokens nonempty within stops _ ih =>
    rw [List.append_assoc]
    refine .word nonempty within ?_ ih
    cases rest with
    | nil => exact ends
    | cons c rest => exact stops

theorem tokenized_word {word : String} (nonempty : word.toList ≠ [])
    (within : ∀ c ∈ word.toList, c ∉ separators ∧ c ≠ ')') :
    Tokenized word.toList [.word word] := by
  have single : Tokenized (word.toList ++ []) [.word (String.ofList word.toList)] :=
    .word nonempty within (by simp) .nil
  rwa [List.append_nil, String.ofList_toList] at single

theorem tokenized_spaced {first second : String} {tokens others : List Token}
    (left : Tokenized first.toList tokens) (right : Tokenized second.toList others) :
    Tokenized (first ++ " " ++ second).toList (tokens ++ others) := by
  rw [String.toList_append, String.toList_append, List.append_assoc]
  exact left.append (by simp [separators]) (.separator (by decide) right)

theorem tokenized_intercalate_cons {text : String} {texts : List String}
    {tokens others : List Token} (left : Tokenized text.toList tokens)
    (right : Tokenized (" ".intercalate texts).toList others) :
    Tokenized (" ".intercalate (text :: texts)).toList (tokens ++ others) := by
  cases texts with
  | nil =>
    cases right.lexAfter_eq
    rw [String.intercalate_singleton]
    simpa [Token.lexAfter, Token.flush] using left
  | cons second rest =>
    rw [String.intercalate_cons_cons]
    exact tokenized_spaced left right

/-- An operator around a text has the keyword, the tokens of the text and the end as its tokens. -/
theorem tokenized_operator (op : Operator) {inside : String} {tokens : List Token}
    (tokenized : Tokenized inside.toList tokens) :
    Tokenized (op.text ++ "(" ++ inside ++ ")").toList
      (.word op.text :: (tokens ++ [.close])) := by
  have closed : Tokenized (inside.toList ++ [')']) (tokens ++ [.close]) :=
    tokenized.append (by simp) (.close .nil)
  rw [← List.singleton_append]
  simp only [String.toList_append, List.append_assoc]
  exact (tokenized_word (operator_text_ne_nil op) (operator_text_within op)).append
    (by simp [separators]) (.separator (by decide) closed)

/-! ### Tokens of queries -/

mutual
/-- The tokens of the text of a query. -/
def textTokens : Query α → List Token
  | term stem field => [.word (stem ++ "." ++ field)]
  | apply .score [q] _ => q.textTokens
  | apply op args weights => .word op.text :: (argsTokens weights args ++ [.close])

/-- The tokens of arguments, each behind its weight if there is one. -/
def argsTokens : List α → List (Query α) → List Token
  | _, [] => []
  | [], q :: qs => q.textTokens ++ argsTokens [] qs
  | w :: weights, q :: qs =>
    .word (Numeral.text w) :: (q.textTokens ++ argsTokens weights qs)
end

theorem textTokens_apply {op : Operator} (not_score : op ≠ .score) (args : List (Query α))
    (weights : List α) : (apply op args weights).textTokens =
      .word op.text :: (argsTokens weights args ++ [.close]) := by
  rw [textTokens.eq_def]
  split
  · simp at *
  · rename_i same
    exact absurd (by injection same) not_score
  · rename_i same
    injection same with same_op same_args same_weights
    rw [same_op, same_args, same_weights]

theorem text_apply {op : Operator} (not_score : op ≠ .score) (args : List (Query α))
    (weights : List α) : (apply op args weights).text =
      op.text ++ "(" ++ " ".intercalate (weighted weights (texts args)) ++ ")" := by
  rw [text.eq_def]
  split
  · simp at *
  · rename_i same
    exact absurd (by injection same) not_score
  · rename_i same
    injection same with same_op same_args same_weights
    rw [same_op, same_args, same_weights]

/-! ### Printable queries -/

/-- A query whose text says all of it: stems stand for themselves, weights read back, and `score`
stands exactly where a positional query is an argument of a structural operator. -/
inductive Printable : Query α → Prop where
  /-- A stem that stands for itself in one of the fields. -/
  | term {stem field : String} (stable : Text.queryTerms stem = [stem])
      (allowed : field ∈ fields) : Printable (term stem field)
  /-- A scored positional query. -/
  | scored {q : Query α} (positional : q.isPositional = true) (inner : Printable q) :
      Printable (scored q)
  /-- An operator over arguments of its own kind. -/
  | operator {op : Operator} {args : List (Query α)} {weights : List α} (not_score : op ≠ .score)
      (bounded : BoundedDistance op)
      (length_weights : weights.length = if op.isWeighted then args.length else 0)
      (weights_plain : ∀ w ∈ weights, PlainWord (Numeral.text w))
      (weights_read : ∀ w ∈ weights, Numeral.read (Numeral.text w) = .ok w)
      (same_kind : ∀ q ∈ args, q.isPositional = op.isPositional)
      (args_printable : ∀ q ∈ args, Printable q) : Printable (apply op args weights)

theorem field_chars {field : String} (allowed : field ∈ fields) :
    (∀ c ∈ field.toList, c ∉ separators ∧ c ≠ ')') ∧ '#' ∉ field.toList ∧
      String.ofList (Unicode.lowerCase field.toList) = field := by
  simp only [fields, List.mem_cons, List.not_mem_nil, or_false] at allowed
  rcases allowed with rfl | rfl | rfl | rfl | rfl <;> decide +kernel

theorem within_of_plain {cs : List Char} (plain : Text.Plain cs) :
    ∀ c ∈ cs, c ∉ separators ∧ c ≠ ')' := by
  intro c member
  have unmarked := plain c member
  refine ⟨fun separates => unmarked ?_, fun closes => unmarked ?_⟩
  · have all_marks : ∀ d ∈ separators, d ∈ Text.marks := by decide
    exact all_marks c separates
  · rw [closes]
    decide

/-- A solid text is a word, which names no field. -/
theorem plainWord_of_solid {stem : String} (solid : Text.Solid stem.toList) :
    PlainWord stem ∧ TermWord stem stem defaultField :=
  ⟨⟨solid.ne_nil, within_of_plain solid.plain, fun marked => solid.plain '#' marked (by decide)⟩,
    .plain fun point => solid.plain '.' point (by decide)⟩

/-- The word of a term, and how it is split again. -/
theorem plainWord_term {stem field : String} (plain : Text.Plain stem.toList)
    (allowed : field ∈ fields) :
    PlainWord (stem ++ "." ++ field) ∧ TermWord (stem ++ "." ++ field) stem field := by
  obtain ⟨field_within, field_unmarked, lowered⟩ := field_chars allowed
  have chars : (stem ++ "." ++ field).toList = stem.toList ++ '.' :: field.toList := by simp
  refine ⟨⟨by simp [chars], fun c member => ?_, fun marked => ?_⟩, .dotted ?_ lowered.symm allowed⟩
  · rw [chars] at member
    rcases List.mem_append.1 member with first | member
    · exact within_of_plain plain c first
    · rcases List.mem_cons.1 member with rfl | last
      · decide
      · exact field_within c last
  · rw [chars] at marked
    rcases List.mem_append.1 marked with first | marked
    · exact plain '#' first (by decide)
    · rcases List.mem_cons.1 marked with point | last
      · exact absurd point (by decide)
      · exact field_unmarked last
  · exact fun point => plain '.' point (by decide)

theorem plain_of_stable {stem : String} (stable : Text.queryTerms stem = [stem]) :
    Text.Plain stem.toList := by
  have member : stem ∈ Text.queryTerms stem := by
    rw [stable]
    exact List.mem_cons_self
  exact (Text.solid_of_mem_queryTerms member).plain

/-! ### The tokens of a text -/

theorem tokenized_args {args : List (Query α)} {weights : List α}
    (weights_plain : ∀ w ∈ weights, PlainWord (Numeral.text w))
    (args_tokenized : ∀ q ∈ args, Tokenized q.text.toList q.textTokens) :
    Tokenized (" ".intercalate (weighted weights (texts args))).toList
      (argsTokens weights args) := by
  induction args generalizing weights with
  | nil => cases weights <;> exact .nil
  | cons q args ih =>
    obtain ⟨head, tail⟩ := List.forall_mem_cons.1 args_tokenized
    cases weights with
    | nil =>
      have others := ih (List.forall_mem_nil _) tail
      rw [argsTokens, texts]
      cases args with
      | nil => exact tokenized_intercalate_cons head others
      | cons r args => exact tokenized_intercalate_cons head others
    | cons w weights =>
      obtain ⟨first_plain, others_plain⟩ := List.forall_mem_cons.1 weights_plain
      have others := ih others_plain tail
      have whole := tokenized_intercalate_cons
        (tokenized_spaced (tokenized_word first_plain.nonempty first_plain.within) head) others
      rwa [List.append_assoc, List.singleton_append] at whole

/-- The tokens of the text of a printable query. -/
theorem tokenized_text {q : Query α} (printable : Printable q) :
    Tokenized q.text.toList q.textTokens := by
  induction printable with
  | term stable allowed =>
    obtain ⟨plain, -⟩ := plainWord_term (plain_of_stable stable) allowed
    exact tokenized_word plain.nonempty plain.within
  | scored _ _ ih =>
    rw [Query.scored, text, textTokens]
    exact ih
  | @operator op args weights not_score _ _ weights_plain _ _ _ ih =>
    rw [text_apply not_score, textTokens_apply not_score]
    exact tokenized_operator op (tokenized_args weights_plain ih)

/-! ### The derivation of a text -/

omit [Numeral α] in
theorem unwrapScore_of_ne {op : Operator} (not_score : op ≠ .score) (args : List (Query α))
    (weights : List α) : (apply op args weights).unwrapScore = apply op args weights := by
  unfold unwrapScore
  split
  · rename_i same
    exact absurd (by injection same) not_score
  · rfl

omit [Numeral α] in
theorem unwrapScore_of_isPositional {q : Query α} (positional : q.isPositional = true) :
    q.unwrapScore = q := by
  cases q with
  | term => rfl
  | apply op args weights =>
    refine unwrapScore_of_ne ?_ args weights
    rintro rfl
    simp [isPositional, Operator.isPositional] at positional

omit [Numeral α] in
theorem under_of_same_kind {op : Operator} {q : Query α}
    (same_kind : q.isPositional = op.isPositional) : q.under op = q := by
  have off : (!op.isPositional && decide (op ≠ .score) && op.isPositional) = false := by
    cases op.isPositional <;> simp
  rw [under, same_kind, off, if_neg (by decide)]

/-- Without its `score` a printable argument comes back under the operator. -/
theorem Printable.under_unwrapScore {op : Operator} {q : Query α} (printable : Printable q)
    (not_score : op ≠ .score) (same_kind : q.isPositional = op.isPositional) :
    q.unwrapScore.under op = q := by
  cases printable with
  | term => exact under_of_same_kind same_kind
  | @scored q positional _ =>
    have structural : op.isPositional = false := same_kind.symm
    simp [Query.scored, unwrapScore, under, structural, not_score, positional]
  | operator not_score' =>
    rw [unwrapScore_of_ne not_score']
    exact under_of_same_kind same_kind

theorem arguments_textTokens {op : Operator} {args : List (Query α)} {weights : List α}
    (not_score : op ≠ .score)
    (length_weights : weights.length = if op.isWeighted then args.length else 0)
    (weights_plain : ∀ w ∈ weights, PlainWord (Numeral.text w))
    (weights_read : ∀ w ∈ weights, Numeral.read (Numeral.text w) = .ok w)
    (same_kind : ∀ q ∈ args, q.isPositional = op.isPositional)
    (args_printable : ∀ q ∈ args, Printable q)
    (items : ∀ q ∈ args, Item q.textTokens [q.unwrapScore]) :
    Arguments op (argsTokens weights args) args weights := by
  induction args generalizing weights with
  | nil =>
    obtain rfl : weights = [] := by simpa using length_weights
    exact .done
  | cons q args ih =>
    obtain ⟨kind, others_kind⟩ := List.forall_mem_cons.1 same_kind
    obtain ⟨printable, others_printable⟩ := List.forall_mem_cons.1 args_printable
    obtain ⟨item, others_items⟩ := List.forall_mem_cons.1 items
    have restored := printable.under_unwrapScore not_score kind
    cases weighted : op.isWeighted with
    | false =>
      obtain rfl : weights = [] := by simpa [weighted] using length_weights
      have others : Arguments op (argsTokens [] args) args [] :=
        ih (by simp [weighted]) (by simp) (by simp) others_kind others_printable others_items
      have derived := Arguments.item weighted item others
      rwa [List.map_singleton, restored, List.singleton_append] at derived
    | true =>
      cases weights with
      | nil => simp [weighted] at length_weights
      | cons w weights =>
        obtain ⟨plain, others_plain⟩ := List.forall_mem_cons.1 weights_plain
        obtain ⟨read, others_read⟩ := List.forall_mem_cons.1 weights_read
        have others : Arguments op (argsTokens weights args) args weights :=
          ih (by simpa [weighted] using length_weights) others_plain others_read others_kind
            others_printable others_items
        have derived := Arguments.weighted weighted (plain.weight read) item others
        rwa [List.map_singleton, List.map_singleton, restored, List.singleton_append,
          List.singleton_append] at derived

/-- The tokens of a printable query are an item that denotes the query without its `score`. -/
theorem item_textTokens {q : Query α} (printable : Printable q) :
    Item q.textTokens [q.unwrapScore] := by
  induction printable with
  | @term stem field stable allowed =>
    obtain ⟨plain, split⟩ := plainWord_term (plain_of_stable stable) allowed
    have derived : Item [.word (stem ++ "." ++ field)]
        ((Text.queryTerms stem).map fun s => (term s field : Query α)) :=
      .terms (not_reserved_of_unmarked plain.unmarked) split
    rwa [stable] at derived
  | @scored q positional inner ih =>
    rw [unwrapScore_of_isPositional positional] at ih
    rw [Query.scored, textTokens]
    exact ih
  | operator not_score bounded length_weights weights_plain weights_read same_kind args_printable
      ih =>
    rw [textTokens_apply not_score, unwrapScore_of_ne not_score]
    exact .operator (keyword_text not_score bounded) (arguments_textTokens not_score
      length_weights weights_plain weights_read same_kind args_printable ih)

end RankedRetrieval.Query
