import RankedRetrieval.Proofs.Query.Printing
import RankedRetrieval.Proofs.Query.Proper
import RankedRetrieval.Scoring.Tree

/-!
# Texts of positional queries

A query that only merges occurrences can be told from its text, so two scored arguments that are
taken for repeats of one another are the same, unless something else than occurrences is merged in
both of them.

## Main Definitions

* `Query.stops` — the characters at which the text of a query ends
* `Query.spaced` — the texts of arguments, each behind a blank
* `Query.Legible` — queries whose text can be read from the left
* `Query.Merging` — queries that merge occurrences and do nothing else
* `Query.Recognisable` — queries that are not scored, or the scores of legible ones

## Main Results

* `Query.Legible.text_append_inj` — a query that only merges is known from its text and what
  follows it
* `Query.Proper.eq_of_repeatKey?` — repeats of an argument score the same query

## Design Notes

The text of a query is read from the left.  A stem ends at its dot and the keyword of an operator
at its parenthesis, which tells a term from an operator; a field ends at a blank, at a closing
parenthesis or with the text.  Weights would stand between the arguments like terms of their own,
which is why a legible query has none where occurrences are merged.

What stands behind the keyword of a structural operator is not read.  There may be weights, and
`score` around an argument does not show.  A query that has such an operator among the arguments
that it merges is not known from its text, but the text shows that it has one.
-/

namespace RankedRetrieval.Query

/-- The characters at which the text of a query ends. -/
def stops : List Char := [' ', ')']

/-- Texts without a mark are known from what they make up with texts that begin with a mark. -/
theorem append_inj_of_marks {marks as bs ss ts : List Char} (as_bare : ∀ c ∈ as, c ∉ marks)
    (bs_bare : ∀ c ∈ bs, c ∉ marks) (ss_marked : ∀ c ∈ ss.head?, c ∈ marks)
    (ts_marked : ∀ c ∈ ts.head?, c ∈ marks) (same : as ++ ss = bs ++ ts) : as = bs ∧ ss = ts := by
  induction as generalizing bs with
  | nil =>
    cases bs with
    | nil => exact ⟨rfl, same⟩
    | cons b bs =>
      rw [List.nil_append, List.cons_append] at same
      have marked : b ∈ marks := ss_marked b (by rw [same]; rfl)
      exact absurd marked (bs_bare b List.mem_cons_self)
  | cons a as ih =>
    cases bs with
    | nil =>
      rw [List.nil_append, List.cons_append] at same
      have marked : a ∈ marks := ts_marked a (by rw [← same]; rfl)
      exact absurd marked (as_bare a List.mem_cons_self)
    | cons b bs =>
      obtain ⟨rfl, rest⟩ := List.cons.inj same
      obtain ⟨rfl, rfl⟩ := ih (List.forall_mem_cons.1 as_bare).2 (List.forall_mem_cons.1 bs_bare).2
        rest
      exact ⟨rfl, rfl⟩

/-! ### Operators -/

theorem bare_digits (n : Nat) : Bare (Nat.repr n) := by
  intro c member
  rw [Nat.toList_repr] at member
  obtain ⟨free, open_end⟩ := not_ends_of_isDigit (Decimal.isDigit_of_mem_digits member)
  have digit := Decimal.isDigit_of_mem_digits member
  have none_digits : ∀ d ∈ [' ', '.', '(', ')'], Decimal.isDigit d = false := by decide
  intro marked
  rw [none_digits c marked] at digit
  simp at digit

theorem bare_append {first second : String} (left : Bare first) (right : Bare second) :
    Bare (first ++ second) := by
  intro c member
  rw [String.toList_append] at member
  exact (List.mem_append.1 member).elim (left c) (right c)

theorem bare_operator (op : Operator) : Bare op.text := by
  cases op with
  | near n => exact bare_append (by unfold Bare; decide) (bare_digits n)
  | window n => exact bare_append (by unfold Bare; decide) (bare_digits n)
  | syn | score | or | and | wand | sum | wsum =>
    unfold Bare
    decide

/-- A natural is known from its numeral. -/
theorem numeral_injective {m n : Nat} (same : Nat.repr m = Nat.repr n) : m = n := by
  have digits := congrArg String.toList same
  rw [Nat.toList_repr, Nat.toList_repr] at digits
  have values := congrArg (fun cs => Nat.ofDigitChars 10 cs 0) digits
  simpa using values

/-- An operator other than `score` has one of the plain keywords or a distance. -/
theorem mem_plainOperators_or {op : Operator} (not_score : op ≠ .score) :
    op ∈ plainOperators ∨ (∃ n, op = .near n) ∨ ∃ n, op = .window n := by
  cases op with
  | score => exact absurd rfl not_score
  | near n => exact .inr (.inl ⟨n, rfl⟩)
  | window n => exact .inr (.inr ⟨n, rfl⟩)
  | syn | or | and | wand | sum | wsum => exact .inl (by decide)

/-- The keyword of an operator tells the operator. -/
theorem operator_text_injective {op other : Operator} (not_score : op ≠ .score)
    (other_not_score : other ≠ .score) (same : op.text = other.text) : op = other := by
  rcases mem_plainOperators_or not_score with plain | ⟨m, rfl⟩ | ⟨m, rfl⟩ <;>
    rcases mem_plainOperators_or other_not_score with other_plain | ⟨n, rfl⟩ | ⟨n, rfl⟩
  · exact text_injective_of_plain plain other_plain same
  · exact absurd same (text_ne_of_mem_plainOperators plain _).1
  · exact absurd same (text_ne_of_mem_plainOperators plain _).2
  · exact absurd same.symm (text_ne_of_mem_plainOperators other_plain _).1
  · rw [numeral_injective ((String.append_right_inj "#near/").1 same)]
  · exact absurd same (near_ne_window (Nat.repr m) (Nat.repr n))
  · exact absurd same.symm (text_ne_of_mem_plainOperators other_plain _).2
  · exact absurd same.symm (near_ne_window (Nat.repr n) (Nat.repr m))
  · rw [numeral_injective ((String.append_right_inj "#window/").1 same)]

/-! ### Legible queries -/

section Legible

variable {α : Type}

/-- A query whose text can be read from the left.  What an operator that does not merge is applied
to need not be read. -/
inductive Legible : Query α → Prop where
  /-- A bare stem in a bare field. -/
  | term {stem field : String} (stem_bare : Bare stem) (field_bare : Bare field) :
      Legible (term stem field)
  /-- An operator other than `score`.  If it merges, then legible arguments without weights. -/
  | apply {op : Operator} {args : List (Query α)} {weights : List α} (not_score : op ≠ .score)
      (unweighted : op.isPositional = true → weights = [])
      (args_legible : op.isPositional = true → ∀ q ∈ args, Legible q) :
      Legible (apply op args weights)

/-- A query that merges occurrences and does nothing else. -/
inductive Merging : Query α → Prop where
  /-- A term has occurrences. -/
  | term {stem field : String} : Merging (term stem field)
  /-- A positional operator merges those of its arguments. -/
  | apply {op : Operator} {args : List (Query α)} {weights : List α}
      (positional : op.isPositional = true) (args_merging : ∀ q ∈ args, Merging q) :
      Merging (apply op args weights)

theorem Merging.of_apply {op : Operator} {args : List (Query α)} {weights : List α}
    (merging : Merging (Query.apply op args weights)) :
    op.isPositional = true ∧ ∀ q ∈ args, Merging q := by
  cases merging with
  | apply positional args_merging => exact ⟨positional, args_merging⟩

/-- A proper positional query only merges, and is legible. -/
theorem Proper.merging_legible {q : Query α} (proper : Proper q)
    (positional : q.isPositional = true) : q.Merging ∧ q.Legible := by
  induction proper with
  | term stem_bare field_bare => exact ⟨.term, .term stem_bare field_bare⟩
  | @apply op args weights node _ ih =>
    have args_positional := node.positional (.inl positional)
    refine ⟨.apply positional fun q hq => (ih q hq (args_positional q hq)).1,
      .apply ?_ (fun _ => node.weightless positional)
        fun _ q hq => (ih q hq (args_positional q hq)).2⟩
    rintro rfl
    simp [Query.isPositional, Operator.isPositional] at positional

/-- A query that is not a scored one, or the score of a legible one: whatever is taken for a repeat
of it can be compared with it. -/
def Recognisable (q : Query α) : Prop :=
  ∀ args weights, q = apply .score args weights → ∃ inner, args = [inner] ∧ inner.Legible

theorem Proper.recognisable {q : Query α} (proper : Proper q) : q.Recognisable := by
  rintro args weights rfl
  obtain ⟨inner, rfl, positional, inner_proper⟩ := proper.of_score
  exact ⟨inner, rfl, (inner_proper.merging_legible positional).2⟩

end Legible

/-! ### Texts -/

variable {α : Type} [Numeral α]

/-- The texts of arguments, each behind a blank. -/
def spaced (qs : List (Query α)) : List Char :=
  qs.flatMap fun q => ' ' :: q.text.toList

theorem toList_text_term (stem field : String) (rest : List Char) :
    (term stem field : Query α).text.toList ++ rest =
      stem.toList ++ '.' :: (field.toList ++ rest) := by
  rw [text, String.toList_append, String.toList_append, List.append_assoc, List.append_assoc]
  rfl

theorem spaced_cons (q : Query α) (qs : List (Query α)) :
    spaced (q :: qs) = ' ' :: (q.text.toList ++ spaced qs) := rfl

theorem toList_intercalate_texts (q : Query α) (qs : List (Query α)) :
    (" ".intercalate (texts (q :: qs))).toList = q.text.toList ++ spaced qs := by
  induction qs generalizing q with
  | nil =>
    rw [texts, texts, String.intercalate_singleton]
    exact (List.append_nil _).symm
  | cons r qs ih =>
    rw [texts, texts, String.intercalate_cons_cons, String.toList_append, String.toList_append,
      List.append_assoc, spaced_cons, ← ih r, texts]
    rfl

/-- An operator is written as its keyword around its arguments. -/
theorem toList_text_apply {op : Operator} (not_score : op ≠ .score) (args : List (Query α))
    (weights : List α) (rest : List Char) : (apply op args weights).text.toList ++ rest =
      op.text.toList ++
        '(' :: ((" ".intercalate (weighted weights (texts args))).toList ++ ')' :: rest) := by
  rw [text_apply not_score]
  simp

/-- Arguments without weights are written each behind a blank, but for the first one. -/
theorem spaced_eq {args : List (Query α)} (some_arg : args ≠ []) :
    spaced args = ' ' :: (" ".intercalate (weighted ([] : List α) (texts args))).toList := by
  obtain ⟨q, qs, rfl⟩ := List.exists_cons_of_ne_nil some_arg
  rw [spaced_cons, weighted, toList_intercalate_texts]
  simp [texts]

theorem stops_subset {s : List Char} (ends : ∀ c ∈ s.head?, c ∈ stops) :
    ∀ c ∈ s.head?, c ∈ [' ', '.', '(', ')'] := by
  intro c first
  have all_marks : ∀ d ∈ stops, d ∈ [' ', '.', '(', ')'] := by decide
  exact all_marks c (ends c first)

/-- What follows an argument begins with a blank or with a parenthesis. -/
theorem head_stops (qs : List (Query α)) (rest : List Char) :
    ∀ c ∈ (spaced qs ++ ')' :: rest).head?, c ∈ stops := by
  cases qs with
  | nil => simp [spaced, stops]
  | cons q qs => simp [spaced_cons, stops]

namespace Legible

/-- A stem ends at a dot and a keyword at a parenthesis. -/
theorem term_ne_apply {stem field : String} {op : Operator} {args : List (Query α)}
    {weights : List α} (stem_bare : Bare stem) (not_score : op ≠ .score) (s t : List Char) :
    (Query.term stem field : Query α).text.toList ++ s ≠
      (Query.apply op args weights).text.toList ++ t := by
  intro same
  rw [toList_text_term, toList_text_apply not_score] at same
  obtain ⟨-, rest⟩ := append_inj_of_marks stem_bare (bare_operator op) (by simp) (by simp) same
  exact absurd (List.cons.inj rest).1 (by decide)

/-- A bare text before another mark does not begin with a parenthesis. -/
theorem bare_append_ne {text : String} (bare : Bare text) {mark : Char} (other : mark ≠ ')')
    (rest s : List Char) : text.toList ++ mark :: rest ≠ ')' :: s := by
  intro same
  cases chars : text.toList with
  | nil =>
    rw [chars] at same
    exact other (List.cons.inj same).1
  | cons c cs =>
    rw [chars] at same
    refine bare c (by rw [chars]; exact List.mem_cons_self) ?_
    rw [(List.cons.inj same).1]
    decide

/-- The text of a legible query does not begin with a parenthesis that closes. -/
theorem text_append_ne {q : Query α} (legible : Legible q) (rest s : List Char) :
    q.text.toList ++ rest ≠ ')' :: s := by
  cases legible with
  | term stem_bare =>
    rw [toList_text_term]
    exact bare_append_ne stem_bare (by decide) _ _
  | apply not_score =>
    rw [toList_text_apply not_score]
    exact bare_append_ne (bare_operator _) (by decide) _ _

/-- Arguments without weights whose texts before a parenthesis are the same are the same behind
blanks too, if there are any. -/
theorem spaced_of_texts {args others : List (Query α)} (legible : ∀ q ∈ args, Legible q)
    (others_legible : ∀ q ∈ others, Legible q) {s t : List Char}
    (same : (" ".intercalate (weighted ([] : List α) (texts args))).toList ++ ')' :: s =
      (" ".intercalate (weighted ([] : List α) (texts others))).toList ++ ')' :: t) :
    spaced args ++ ')' :: s = spaced others ++ ')' :: t := by
  have ne_nil {q : Query α} {qs : List (Query α)} (legible : Legible q) (rest u : List Char) :
      (" ".intercalate (weighted ([] : List α) (texts (q :: qs)))).toList ++ rest ≠ ')' :: u := by
    rw [weighted.eq_def]
    simp only [texts]
    rw [← texts, toList_intercalate_texts, List.append_assoc]
    exact text_append_ne legible _ u
  cases args with
  | nil =>
    cases others with
    | nil => exact same
    | cons r rs => exact absurd same.symm (ne_nil (others_legible r List.mem_cons_self) _ s)
  | cons q qs =>
    cases others with
    | nil => exact absurd same (ne_nil (legible q List.mem_cons_self) _ t)
    | cons r rs =>
      rw [spaced_eq (List.cons_ne_nil q qs), spaced_eq (List.cons_ne_nil r rs)]
      exact congrArg (' ' :: ·) same

mutual
/-- Two queries are the same if their texts and what follows them are, or neither of them only
merges. -/
theorem text_append_inj : (q : Query α) → {r : Query α} → Legible q → Legible r →
    {s t : List Char} → (∀ c ∈ s.head?, c ∈ stops) → (∀ c ∈ t.head?, c ∈ stops) →
    q.text.toList ++ s = r.text.toList ++ t → (q = r ∧ s = t) ∨ (¬ q.Merging ∧ ¬ r.Merging)
  | .term stem field, r, .term stem_bare field_bare, other_legible, s, t, ends, other_ends,
    same => by
    cases other_legible with
    | @term other_stem other_field other_stem_bare other_field_bare =>
      rw [toList_text_term, toList_text_term] at same
      obtain ⟨stems, rest⟩ :=
        append_inj_of_marks stem_bare other_stem_bare (by simp) (by simp) same
      obtain ⟨fields, tails⟩ := append_inj_of_marks field_bare other_field_bare
        (stops_subset ends) (stops_subset other_ends) (List.cons.inj rest).2
      rw [String.toList_inj.1 stems, String.toList_inj.1 fields]
      exact .inl ⟨rfl, tails⟩
    | apply not_score => exact absurd same (term_ne_apply stem_bare not_score s t)
  | .apply op args weights, r, .apply not_score unweighted args_legible, other_legible, s, t, ends,
    other_ends, same => by
    cases other_legible with
    | term stem_bare => exact absurd same.symm (term_ne_apply stem_bare not_score t s)
    | @apply other others other_weights other_not_score other_unweighted others_legible =>
      rw [toList_text_apply not_score, toList_text_apply other_not_score] at same
      obtain ⟨keywords, rest⟩ :=
        append_inj_of_marks (bare_operator op) (bare_operator other) (by simp) (by simp) same
      obtain rfl := operator_text_injective not_score other_not_score (String.toList_inj.1 keywords)
      by_cases positional : op.isPositional = true
      · obtain rfl := unweighted positional
        obtain rfl := other_unweighted positional
        have arguments := spaced_of_texts (args_legible positional) (others_legible positional)
          (List.cons.inj rest).2
        rcases spaced_append_inj args (args_legible positional) (others_legible positional)
          arguments with ⟨rfl, tails⟩ | ⟨unmerged, others_unmerged⟩
        · exact .inl ⟨rfl, tails⟩
        · exact .inr ⟨fun merging => unmerged merging.of_apply.2,
            fun merging => others_unmerged merging.of_apply.2⟩
      · exact .inr ⟨fun merging => positional merging.of_apply.1,
          fun merging => positional merging.of_apply.1⟩

/-- Several legible queries, each behind a blank and all of them before a parenthesis, are known
from their texts, unless both rows hold one that does not only merge. -/
theorem spaced_append_inj : (qs : List (Query α)) → {rs : List (Query α)} →
    (∀ q ∈ qs, Legible q) → (∀ r ∈ rs, Legible r) → {s t : List Char} →
    spaced qs ++ ')' :: s = spaced rs ++ ')' :: t →
    (qs = rs ∧ s = t) ∨ ((¬ ∀ q ∈ qs, q.Merging) ∧ ¬ ∀ r ∈ rs, r.Merging)
  | [], [], _, _, s, t, same => .inl ⟨rfl, (List.cons.inj same).2⟩
  | [], r :: rs, _, _, s, t, same => by
    rw [spaced_cons] at same
    exact absurd (List.cons.inj same).1 (by decide)
  | q :: qs, [], _, _, s, t, same => by
    rw [spaced_cons] at same
    exact absurd (List.cons.inj same).1 (by decide)
  | q :: qs, r :: rs, legible, others_legible, s, t, same => by
    obtain ⟨first, others⟩ := List.forall_mem_cons.1 legible
    obtain ⟨other_first, other_others⟩ := List.forall_mem_cons.1 others_legible
    rw [spaced_cons, spaced_cons, List.cons_append, List.cons_append, List.append_assoc,
      List.append_assoc] at same
    rw [List.forall_mem_cons, List.forall_mem_cons]
    rcases text_append_inj q first other_first (head_stops qs s) (head_stops rs t)
      (List.cons.inj same).2 with ⟨rfl, rest⟩ | ⟨unmerged, other_unmerged⟩
    · rcases spaced_append_inj qs others other_others rest with
        ⟨rfl, tails⟩ | ⟨unmerged, others_unmerged⟩
      · exact .inl ⟨rfl, tails⟩
      · exact .inr ⟨fun merging => unmerged merging.2,
          fun merging => others_unmerged merging.2⟩
    · exact .inr ⟨fun merging => unmerged merging.1, fun merging => other_unmerged merging.1⟩
end

variable {q r : Query α}

/-- A query that only merges is known from its text. -/
theorem eq_of_text (legible : Legible q) (other_legible : Legible r)
    (merging : q.Merging) (same : q.text = r.text) : q = r := by
  have texts : q.text.toList ++ [] = r.text.toList ++ [] := by rw [same]
  rcases text_append_inj q legible other_legible (by simp) (by simp) texts with
    ⟨same, -⟩ | ⟨unmerged, -⟩
  · exact same
  · exact absurd merging unmerged

/-- A scored argument shows itself only if there are others beside it, which are not scored. -/
theorem toList_text_score (q r : Query α) (rs : List (Query α)) :
    (Query.apply .score (q :: r :: rs) []).text.toList =
      Operator.score.text.toList ++ '(' :: (q.text.toList ++ (spaced (r :: rs) ++ [')'])) := by
  rw [text.eq_def]
  dsimp only
  rw [String.toList_append, String.toList_append, String.toList_append, weighted.eq_def]
  simp only [texts]
  rw [← texts, ← texts, toList_intercalate_texts, List.append_assoc, List.append_assoc,
    List.append_assoc]
  rfl

theorem text_ne_score {op : Operator} (not_score : op ≠ .score) :
    op.text ≠ Operator.score.text := by
  cases op with
  | score => exact absurd rfl not_score
  | near n | window n => exact ne_of_take_ne (by simp [Operator.text])
  | syn | or | and | wand | sum | wsum => decide

/-- The text of a legible query does not begin as that of several scored ones does. -/
theorem text_ne_score_append (legible : Legible q) (rest : List Char) :
    q.text.toList ≠ Operator.score.text.toList ++ '(' :: rest := by
  intro same
  rw [← List.append_nil q.text.toList] at same
  cases legible with
  | term stem_bare =>
    rw [toList_text_term] at same
    obtain ⟨-, rest⟩ :=
      append_inj_of_marks stem_bare (bare_operator .score) (by simp) (by simp) same
    exact absurd (List.cons.inj rest).1 (by decide)
  | apply not_score =>
    rw [toList_text_apply not_score] at same
    obtain ⟨keywords, -⟩ :=
      append_inj_of_marks (bare_operator _) (bare_operator .score) (by simp) (by simp) same
    exact text_ne_score not_score (String.toList_inj.1 keywords)

/-- What is scored first is known from the text of its score, if it only merges. -/
theorem eq_of_score_text {qs rs : List (Query α)} (legible : Legible q) (other_legible : Legible r)
    (merging : q.Merging)
    (same : (Query.apply .score (q :: qs) []).text = (Query.apply .score (r :: rs) []).text) :
    q = r := by
  cases qs with
  | nil =>
    cases rs with
    | nil => exact legible.eq_of_text other_legible merging (by simpa [text] using same)
    | cons r' rs =>
      refine absurd (congrArg String.toList same) ?_
      rw [toList_text_score, text]
      exact legible.text_ne_score_append _
  | cons q' qs =>
    cases rs with
    | nil =>
      refine absurd (congrArg String.toList same).symm ?_
      rw [toList_text_score, text]
      exact other_legible.text_ne_score_append _
    | cons r' rs =>
      have texts := congrArg String.toList same
      rw [toList_text_score, toList_text_score, List.append_cancel_left_eq] at texts
      rcases text_append_inj q legible other_legible (head_stops (q' :: qs) [])
        (head_stops (r' :: rs) []) (List.cons.inj texts).2 with ⟨same, -⟩ | ⟨unmerged, -⟩
      · exact same
      · exact absurd merging unmerged

end Legible

/-! ### Repeats -/

section Repeats

variable {q r : Query α}

/-- A query with repeats is a scored one. -/
theorem exists_score_of_repeatKey? (repeated : q.repeatKey?.isSome) :
    ∃ args weights, q = Query.apply .score args weights := by
  unfold repeatKey? at repeated
  split at repeated
  · exact ⟨_, _, rfl⟩
  · simp at repeated

/-- Repeats of an argument score the same query. -/
theorem Proper.eq_of_repeatKey? (proper : Proper q) (other_proper : Proper r)
    (repeated : q.repeatKey?.isSome) (same : q.repeatKey? = r.repeatKey?) :
    ∃ inner weights other_weights, q = Query.apply .score [inner] weights ∧
      r = Query.apply .score [inner] other_weights := by
  obtain ⟨args, weights, rfl⟩ := exists_score_of_repeatKey? repeated
  obtain ⟨others, other_weights, rfl⟩ := exists_score_of_repeatKey? (same ▸ repeated)
  obtain ⟨inner, rfl, positional, inner_proper⟩ := proper.of_score
  obtain ⟨other, rfl, other_positional, other_inner_proper⟩ := other_proper.of_score
  obtain ⟨merging, legible⟩ := inner_proper.merging_legible positional
  obtain ⟨-, other_legible⟩ := other_inner_proper.merging_legible other_positional
  have texts : inner.text = other.text := by
    simpa [repeatKey?, text] using same
  obtain rfl := legible.eq_of_text other_legible merging texts
  exact ⟨inner, weights, other_weights, rfl, rfl⟩

end Repeats

end RankedRetrieval.Query
