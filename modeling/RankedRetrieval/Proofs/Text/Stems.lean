import RankedRetrieval.Text.Analysis

/-!
# Stems are words

A stem has characters, and none of them ends a word of a query.

## Main Definitions

* `Text.Plain` — characters without a meaning in a query
* `Text.Solid` — at least one character, and plain ones only
* `Text.Begun` — a plain text that does not begin with an apostrophe
* `Stem.SolidRule` — rules that make solid words

## Main Results

* `Stem.applyRules_cases` — what a list of rules does to a word
* `Stem.regions_pos` — no region begins at the front of a word
* `Stem.solid_stem` — the stem of a word that has begun is solid
* `Text.begun_of_mem_words` — the words of a text have begun
* `Text.solid_of_mem_queryTerms` — the stems of a text are solid

## Design Notes

A rule of the stemmer puts letters of its own behind a part of the word, so it is enough that
these letters are plain.  A rule that puts nothing in the place of a suffix asks for a region
that the suffix lies in, for a vowel or for a last letter before the suffix, so something is
left.  The possessive endings are the exception: they go away in any case, and it is the first
letter of a word that keeps them from being all of it.
-/

namespace RankedRetrieval

/-- A property of all characters of a list is decided along the list, rather than by going
through all characters there are. -/
instance (priority := high) forallMemCharDecidable (cs : List Char) (property : Char → Prop)
    [DecidablePred property] : Decidable (∀ c ∈ cs, property c) :=
  List.decidableBAll property cs

namespace Text

/-- The characters that end a word of a query, begin a field or begin a keyword. -/
def marks : List Char := [' ', '\t', '\n', '\r', ',', '(', ')', '.', '#']

/-- Characters without a meaning in a query. -/
def Plain (cs : List Char) : Prop :=
  ∀ c ∈ cs, c ∉ marks

instance plainDecidable (cs : List Char) : Decidable (Plain cs) :=
  inferInstanceAs (Decidable (∀ c ∈ cs, c ∉ marks))

theorem Plain.append {cs ds : List Char} (first : Plain cs) (second : Plain ds) :
    Plain (cs ++ ds) :=
  fun c member => (List.mem_append.1 member).elim (first c) (second c)

theorem Plain.of_subset {cs ds : List Char} (plain : Plain ds) (sub : cs ⊆ ds) : Plain cs :=
  fun c member => plain c (sub member)

/-- A text with characters, all of them plain. -/
structure Solid (cs : List Char) : Prop where
  /-- The characters are plain. -/
  plain : Plain cs
  /-- There is a character. -/
  ne_nil : cs ≠ []

instance solidDecidable (cs : List Char) : Decidable (Solid cs) :=
  decidable_of_iff (Plain cs ∧ cs ≠ [])
    ⟨fun both => ⟨both.1, both.2⟩, fun solid => ⟨solid.plain, solid.ne_nil⟩⟩

theorem Solid.append_plain {cs ds : List Char} (solid : Solid cs) (plain : Plain ds) :
    Solid (cs ++ ds) :=
  ⟨solid.plain.append plain, List.append_ne_nil_of_left_ne_nil solid.ne_nil ds⟩

theorem Plain.append_solid {cs ds : List Char} (plain : Plain cs) (solid : Solid ds) :
    Solid (cs ++ ds) :=
  ⟨plain.append solid.plain, List.append_ne_nil_of_right_ne_nil cs solid.ne_nil⟩

/-- A plain text whose first character is no apostrophe. -/
structure Begun (cs : List Char) : Prop where
  /-- The characters are plain. -/
  plain : Plain cs
  /-- There is a first character, other than an apostrophe. -/
  exists_first : ∃ c rest, cs = c :: rest ∧ c ≠ '\x27'

theorem Begun.solid {cs : List Char} (begun : Begun cs) : Solid cs := by
  obtain ⟨c, rest, rfl, -⟩ := begun.exists_first
  exact ⟨begun.plain, List.cons_ne_nil c rest⟩

theorem Begun.append_plain {cs ds : List Char} (begun : Begun cs) (plain : Plain ds) :
    Begun (cs ++ ds) := by
  obtain ⟨c, rest, rfl, not_apostrophe⟩ := begun.exists_first
  exact ⟨begun.plain.append plain, c, rest ++ ds, rfl, not_apostrophe⟩

end Text

namespace Stem

open Text

/-! ### Regions -/

theorem length_pastFirst?_lt {property : Char → Bool} {cs rest : List Char}
    (found : pastFirst? property cs = some rest) : rest.length < cs.length := by
  induction cs with
  | nil => simp [pastFirst?] at found
  | cons c cs ih =>
    rw [pastFirst?] at found
    split at found
    · obtain rfl := Option.some.inj found
      exact Nat.lt_succ_self _
    · exact Nat.lt_succ_of_lt (ih found)

theorem length_pastVowelConsonant?_lt {cs rest : List Char}
    (found : pastVowelConsonant? cs = some rest) : rest.length < cs.length := by
  obtain ⟨vowel, past_vowel, past_consonant⟩ := Option.bind_eq_some_iff.1 found
  exact Nat.lt_trans (length_pastFirst?_lt past_consonant) (length_pastFirst?_lt past_vowel)

theorem length_firstRegion?_lt {word rest : List Char} (nonempty : word ≠ [])
    (found : firstRegion? word = some rest) : rest.length < word.length := by
  have openers_pos : ∀ opener ∈ regionOpeners, 0 < opener.length := by decide
  unfold firstRegion? at found
  split at found
  · rename_i opener begins
    have positive := openers_pos opener (List.mem_of_find?_eq_some begins)
    have word_pos := List.length_pos_iff.2 nonempty
    rw [← Option.some.inj found, List.length_drop]
    omega
  · exact length_pastVowelConsonant?_lt found

/-- Regions neither of which begins at the front of the word. -/
structure Regions.Positive (r : Regions) : Prop where
  /-- There is something before the first region. -/
  first_pos : 0 < r.first
  /-- There is something before the second region. -/
  second_pos : 0 < r.second

/-- No region begins at the front of a word. -/
theorem regions_pos {word : List Char} (nonempty : word ≠ []) : (regions word).Positive := by
  have word_pos : 0 < word.length := List.length_pos_iff.2 nonempty
  unfold regions
  split
  · exact ⟨word_pos, word_pos⟩
  · rename_i rest first
    have first_lt := length_firstRegion?_lt nonempty first
    refine ⟨Nat.sub_pos_of_lt first_lt, ?_⟩
    dsimp only
    split
    · exact word_pos
    · rename_i further second
      have second_lt := length_pastVowelConsonant?_lt second
      exact Nat.sub_pos_of_lt (Nat.lt_trans second_lt first_lt)

/-! ### What conditions ask for -/

theorem ne_nil_of_le_length {start : Nat} (positive : 0 < start) {part : List Char}
    (within : decide (start ≤ part.length) = true) : part ≠ [] :=
  List.length_pos_iff.1 (Nat.lt_of_lt_of_le positive (of_decide_eq_true within))

theorem ne_nil_of_any {property : Char → Bool} {part : List Char}
    (some_char : part.any property = true) : part ≠ [] := by
  rintro rfl
  simp at some_char

theorem ne_nil_of_endsWithOneOf {letters : String} {part : List Char}
    (ends : endsWithOneOf letters part = true) : part ≠ [] := by
  rintro rfl
  simp [endsWithOneOf] at ends

/-! ### Rules -/

/-- A word is left alone, or a rule has made a new one of the part before its suffix. -/
theorem applyRules_cases (rules : List SuffixRule) (word : List Char) :
    applyRules rules word = word ∨
      ∃ rule ∈ rules, ∃ part, word = part ++ rule.suffix.toList ∧
        rule.newWord part = some (applyRules rules word) := by
  induction rules with
  | nil => exact .inl rfl
  | cons rule rules ih =>
    rw [applyRules]
    split
    · rename_i part dropped
      cases made : rule.newWord part with
      | none => exact .inl rfl
      | some new =>
        refine .inr ⟨rule, List.mem_cons_self, part, ?_, made⟩
        unfold dropSuffix? at dropped
        split at dropped
        · rename_i ends
          rw [← Option.some.inj dropped]
          exact (List.suffix_iff_eq_append.1 (List.isSuffixOf_iff_suffix.1 ends)).symm
        · simp at dropped
    · rcases ih with same | ⟨other, member, made⟩
      · exact .inl same
      · exact .inr ⟨other, List.mem_cons_of_mem rule member, made⟩

/-- A rule that makes solid words of plain parts. -/
def SolidRule (rule : SuffixRule) : Prop :=
  ∀ part, Plain part → ∀ word ∈ rule.newWord part, Solid word

theorem solid_applyRules {rules : List SuffixRule} {word : List Char}
    (rules_solid : ∀ rule ∈ rules, SolidRule rule) (solid : Solid word) :
    Solid (applyRules rules word) := by
  rcases applyRules_cases rules word with same | ⟨rule, member, part, split, made⟩
  · rwa [same]
  · have part_plain : Plain part := by
      refine solid.plain.of_subset ?_
      rw [split]
      exact List.subset_append_left part _
    exact rules_solid rule member part part_plain _ made

theorem solidRule_keep (suffix : String) : SolidRule (keep suffix) :=
  fun _ _ _ made => by simp [keep] at made

/-- What a rule makes of a part is solid when the replacement is, or when the condition of the
rule asks for a part with characters. -/
theorem solidRule_replaceWhen {condition : List Char → Bool} {replacement : String}
    (plain : Plain replacement.toList)
    (leaves : replacement.toList ≠ [] ∨ ∀ part, condition part = true → part ≠ [])
    (suffix : String) : SolidRule (replaceWhen condition replacement suffix) := by
  intro part part_plain word made
  simp only [replaceWhen, Option.mem_def, Option.ite_none_right_eq_some] at made
  rw [← Option.some.inj made.2]
  rcases leaves with letters | asks
  · exact part_plain.append_solid ⟨plain, letters⟩
  · exact Solid.append_plain ⟨part_plain, asks part made.1⟩ plain

/-- A rule that puts letters in the place of a suffix makes solid words. -/
theorem solidRule_of_letters {condition : List Char → Bool} {replacement : String}
    (solid : Solid replacement.toList) (suffix : String) :
    SolidRule (replaceWhen condition replacement suffix) :=
  solidRule_replaceWhen solid.plain (.inl solid.ne_nil) suffix

/-- A rule that asks for something before the suffix that it takes away makes solid words. -/
theorem solidRule_of_condition {condition : List Char → Bool}
    (asks : ∀ part, condition part = true → part ≠ []) (suffix : String) :
    SolidRule (replaceWhen condition "" suffix) :=
  solidRule_replaceWhen (by decide) (.inr asks) suffix

/-! ### Steps -/

theorem solid_dropPossessive {word : List Char} (begun : Begun word) :
    Solid (dropPossessive word) := by
  have apostrophes : ∀ suffix ∈ ["'s'", "'s", "'"], suffix.toList.head? = some '\x27' := by decide
  rcases applyRules_cases (["'s'", "'s", "'"].map (replaceWhen (fun _ => true) "")) word with
    same | ⟨rule, member, part, split, made⟩
  · rw [dropPossessive, same]
    exact begun.solid
  · obtain ⟨suffix, hsuffix, rfl⟩ := List.mem_map.1 member
    have whole : part ++ "".toList = dropPossessive word := Option.some.inj made
    have part_plain : Plain part := by
      refine begun.plain.of_subset ?_
      rw [split]
      exact List.subset_append_left part _
    rw [← whole]
    refine Solid.append_plain ⟨part_plain, ?_⟩ (by decide)
    rintro rfl
    -- with nothing before it, the suffix is the word and begins with its apostrophe
    obtain ⟨c, rest, rfl, not_apostrophe⟩ := begun.exists_first
    have first := apostrophes suffix hsuffix
    rw [show suffix.toList = c :: rest from split.symm] at first
    exact not_apostrophe (Option.some.inj first)

theorem solid_dropPlural {word : List Char} (solid : Solid word) : Solid (dropPlural word) := by
  have shorten (suffix : String) : SolidRule
      ⟨suffix, fun part => some (part ++ (if 2 ≤ part.length then "i" else "ie").toList)⟩ := by
    intro part part_plain word made
    rw [← Option.some.inj made]
    refine part_plain.append_solid ?_
    split <;> decide
  have vowel_before (part : List Char) (vowel : part.dropLast.any isVowel = true) : part ≠ [] := by
    rintro rfl
    simp at vowel
  refine solid_applyRules ?_ solid
  simp only [List.forall_mem_cons, List.not_mem_nil, false_implies, implies_true, and_true]
  exact ⟨solidRule_of_letters (by decide) _, shorten _, shorten _, solidRule_keep _,
    solidRule_keep _, solidRule_of_condition vowel_before _⟩

theorem solid_mendVerb {start : Nat} {part : List Char} (solid : Solid part) :
    Solid (mendVerb start part) := by
  have endings : ∀ ending ∈ ["at", "bl", "iz"], Solid (ending ++ "e").toList := by decide
  have letters : ∀ letter ∈ "bdfgmnprt".toList, Solid [letter] := by decide
  refine solid_applyRules (fun rule member => ?_) solid
  rcases List.mem_append.1 member with member | last
  · rcases List.mem_append.1 member with member | member
    · obtain ⟨ending, hending, rfl⟩ := List.mem_map.1 member
      exact solidRule_of_letters (endings ending hending) ending
    · obtain ⟨letter, hletter, rfl⟩ := List.mem_map.1 member
      intro before before_plain word made
      rw [← Option.some.inj made]
      exact before_plain.append_solid (letters letter hletter)
  · obtain rfl := List.mem_singleton.1 last
    intro whole whole_plain word made
    simp only [Option.mem_def, Option.ite_none_right_eq_some] at made
    rw [← Option.some.inj made.2]
    exact whole_plain.append_solid (by decide)

theorem solid_dropVerbal {r : Regions} {word : List Char} (solid : Solid word) :
    Solid (dropVerbal r word) := by
  have verbal (suffix : String) : SolidRule
      ⟨suffix, fun part => if part.any isVowel then some (mendVerb r.first part) else none⟩ := by
    intro part part_plain word made
    simp only [Option.mem_def, Option.ite_none_right_eq_some] at made
    rw [← Option.some.inj made.2]
    exact solid_mendVerb ⟨part_plain, ne_nil_of_any made.1⟩
  refine solid_applyRules ?_ solid
  simp only [List.forall_mem_cons, List.not_mem_nil, false_implies, implies_true, and_true]
  exact ⟨solidRule_of_letters (by decide) _, verbal _, verbal _,
    solidRule_of_letters (by decide) _, verbal _, verbal _⟩

theorem solid_replaceFinalY {word : List Char} (solid : Solid word) :
    Solid (replaceFinalY word) := by
  unfold replaceFinalY
  split
  · rename_i y before first rest reversed
    split
    · refine ⟨fun c member => ?_, by simp⟩
      rw [List.mem_reverse] at member
      rcases List.mem_cons.1 member with rfl | earlier
      · decide
      · refine solid.plain c (List.mem_reverse.1 ?_)
        rw [reversed]
        exact List.mem_cons_of_mem y earlier
    · exact solid
  · exact solid

theorem solid_shortenDouble {r : Regions} {word : List Char} (solid : Solid word) :
    Solid (shortenDouble r word) := by
  have letter_before (part : List Char)
      (asked : (decide (r.first ≤ part.length) && endsWithOneOf "cdeghkmnrt" part) = true) :
      part ≠ [] :=
    ne_nil_of_endsWithOneOf (Bool.and_eq_true_iff.1 asked).2
  refine solid_applyRules ?_ solid
  simp only [List.forall_mem_cons, List.not_mem_nil, false_implies, implies_true, and_true]
  and_intros
  all_goals first
    | exact solidRule_of_letters (by decide) _
    | exact solidRule_of_condition letter_before _

theorem solid_shortenDerived {r : Regions} (positive : r.Positive) {word : List Char}
    (solid : Solid word) : Solid (shortenDerived r word) := by
  have in_first (part : List Char) (asked : decide (r.first ≤ part.length) = true) : part ≠ [] :=
    ne_nil_of_le_length positive.first_pos asked
  have in_both (part : List Char)
      (asked : (decide (r.first ≤ part.length) && decide (r.second ≤ part.length)) = true) :
      part ≠ [] :=
    in_first part (Bool.and_eq_true_iff.1 asked).1
  refine solid_applyRules ?_ solid
  simp only [List.forall_mem_cons, List.not_mem_nil, false_implies, implies_true, and_true]
  and_intros
  all_goals first
    | exact solidRule_of_letters (by decide) _
    | exact solidRule_of_condition in_first _
    | exact solidRule_of_condition in_both _

theorem solid_dropDerived {r : Regions} (positive : r.Positive) {word : List Char}
    (solid : Solid word) : Solid (dropDerived r word) := by
  have in_second (part : List Char) (asked : decide (r.second ≤ part.length) = true) :
      part ≠ [] :=
    ne_nil_of_le_length positive.second_pos asked
  refine solid_applyRules (fun rule member => ?_) solid
  rcases List.mem_append.1 member with member | member
  · rcases List.mem_append.1 member with member | last
    · obtain ⟨suffix, -, rfl⟩ := List.mem_map.1 member
      exact solidRule_of_condition in_second suffix
    · obtain rfl := List.mem_singleton.1 last
      exact solidRule_of_condition
        (fun part asked => in_second part (Bool.and_eq_true_iff.1 asked).1) _
  · obtain ⟨suffix, -, rfl⟩ := List.mem_map.1 member
    exact solidRule_of_condition in_second suffix

theorem solid_dropFinal {r : Regions} (positive : r.Positive) {word : List Char}
    (solid : Solid word) : Solid (dropFinal r word) := by
  have before_e (part : List Char)
      (asked : (decide (r.second ≤ part.length) ||
        (decide (r.first ≤ part.length) && !endsShort part)) = true) : part ≠ [] := by
    rcases Bool.or_eq_true_iff.1 asked with in_second | in_first
    · exact ne_nil_of_le_length positive.second_pos in_second
    · exact ne_nil_of_le_length positive.first_pos (Bool.and_eq_true_iff.1 in_first).1
  have before_l (part : List Char)
      (asked : (decide (r.second ≤ part.length) && endsWithOneOf "l" part) = true) : part ≠ [] :=
    ne_nil_of_endsWithOneOf (Bool.and_eq_true_iff.1 asked).2
  refine solid_applyRules ?_ solid
  simp only [List.forall_mem_cons, List.not_mem_nil, false_implies, implies_true, and_true]
  exact ⟨solidRule_of_condition before_e _, solidRule_of_condition before_l _⟩

theorem solid_dropSuffixes {r : Regions} (positive : r.Positive) {word : List Char}
    (solid : Solid word) : Solid (dropSuffixes r word) :=
  solid_dropFinal positive (solid_dropDerived positive (solid_shortenDerived positive
    (solid_shortenDouble (solid_replaceFinalY (solid_dropVerbal solid)))))

/-! ### Stems -/

theorem plain_markAfter {before : Char} {cs : List Char} (plain : Plain cs) :
    Plain (markAfter before cs) := by
  induction cs generalizing before with
  | nil => exact plain
  | cons c rest ih =>
    obtain ⟨head, tail⟩ := List.forall_mem_cons.1 plain
    rw [markAfter]
    refine List.forall_mem_cons.2 ⟨?_, ih tail⟩
    split
    · decide
    · exact head

theorem begun_markConsonants {word : List Char} (begun : Begun word) :
    Begun (markConsonants word) := by
  obtain ⟨plain, c, rest, rfl, not_apostrophe⟩ := begun
  obtain ⟨head, tail⟩ := List.forall_mem_cons.1 plain
  rw [markConsonants, if_neg not_apostrophe]
  refine ⟨List.forall_mem_cons.2 ⟨?_, plain_markAfter tail⟩, _, _, rfl, ?_⟩
  · split
    · decide
    · exact head
  · split
    · decide
    · exact not_apostrophe

theorem solid_unmark {word : List Char} (solid : Solid word) : Solid (unmark word) := by
  refine ⟨fun c member => ?_, by simpa [unmark] using solid.ne_nil⟩
  obtain ⟨d, hd, rfl⟩ := List.mem_map.1 member
  split
  · decide
  · exact solid.plain d hd

theorem solid_irregularStem? {word stem : String} (irregular : irregularStem? word = some stem) :
    Solid stem.toList := by
  unfold irregularStem? at irregular
  split at irregular <;> first | (simp at irregular; done) | skip
  all_goals
    obtain rfl := Option.some.inj irregular
    decide

/-- The stem of a word that has begun is solid. -/
theorem solid_stem {word : String} (begun : Begun word.toList) : Solid (stem word).toList := by
  have marked_begun := begun_markConsonants begun
  have positive := regions_pos marked_begun.solid.ne_nil
  have singular_solid := solid_dropPlural (solid_dropPossessive marked_begun)
  unfold stem
  split
  · rename_i irregular found
    exact solid_irregularStem? found
  · split
    · exact begun.solid
    · dsimp only
      split
      · rw [String.toList_ofList]
        exact solid_unmark singular_solid
      · rw [String.toList_ofList]
        exact solid_unmark (solid_dropSuffixes positive singular_solid)

end Stem

namespace Text

/-! ### Words -/

theorem plain_of_isWordChar {c : Char} (inside : isWordChar c = true) : Plain [c] := by
  have none_inside : ∀ d ∈ marks, isWordChar d = false := by decide
  refine List.forall_mem_singleton.2 fun member => ?_
  rw [none_inside c member] at inside
  simp at inside

/-- A letter or a number begins a word. -/
theorem begun_of_isLetterOrNumber {c : Char} (letter : Unicode.isLetterOrNumber c = true) :
    Begun [c] := by
  refine ⟨plain_of_isWordChar (by simp [isWordChar, letter]), c, [], rfl, ?_⟩
  rintro rfl
  revert letter
  decide

/-- What is read of a word has begun, and so has every word that is read later. -/
theorem begun_wordsAfter {word cs : List Char} (begun : word ≠ [] → Begun word.reverse) :
    ∀ w ∈ wordsAfter word cs, Begun w := by
  induction cs generalizing word with
  | nil =>
    rw [wordsAfter]
    split
    · simp
    · rename_i nonempty
      rw [List.forall_mem_singleton]
      exact begun (by simpa using nonempty)
  | cons c rest ih =>
    rw [wordsAfter]
    split
    · split
      · rename_i letter
        exact ih fun _ => begun_of_isLetterOrNumber letter
      · exact ih fun some_word => absurd rfl some_word
    · rename_i nonempty
      have here : Begun word.reverse := begun (by simpa using nonempty)
      split
      · rename_i inside
        refine ih fun _ => ?_
        rw [List.reverse_cons]
        exact here.append_plain (plain_of_isWordChar inside)
      · exact List.forall_mem_cons.2 ⟨here, ih fun some_word => absurd rfl some_word⟩

/-- The words of a text have begun. -/
theorem begun_of_mem_words {text word : String} (member : word ∈ words text) :
    Begun word.toList := by
  obtain ⟨cs, hcs, rfl⟩ := List.mem_map.1 member
  rw [String.toList_ofList]
  exact begun_wordsAfter (fun some_word => absurd rfl some_word) cs hcs

theorem mem_stemsFrom {position : Nat} {words : List String} {entry : String × Nat}
    (member : entry ∈ stemsFrom position words) :
    ∃ word ∈ words, entry.1 = Stem.stem word := by
  induction words generalizing position with
  | nil => simp [stemsFrom] at member
  | cons word rest ih =>
    have later (member : entry ∈ stemsFrom (position + 1) rest) :
        ∃ w ∈ word :: rest, entry.1 = Stem.stem w := by
      obtain ⟨w, hw, same⟩ := ih member
      exact ⟨w, List.mem_cons_of_mem word hw, same⟩
    rw [stemsFrom] at member
    split at member
    · exact later member
    · rcases List.mem_cons.1 member with rfl | rest
      · exact ⟨word, List.mem_cons_self, rfl⟩
      · exact later rest

/-- The stems of a text are solid. -/
theorem solid_of_mem_queryTerms {text stem : String} (member : stem ∈ queryTerms text) :
    Solid stem.toList := by
  obtain ⟨entry, hentry, rfl⟩ := List.mem_map.1 member
  obtain ⟨word, hword, same⟩ := mem_stemsFrom hentry
  rw [same]
  exact Stem.solid_stem (begun_of_mem_words hword)

end Text

end RankedRetrieval
