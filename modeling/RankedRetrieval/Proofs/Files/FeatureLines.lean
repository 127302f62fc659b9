import RankedRetrieval.Files.FeatureRows
import RankedRetrieval.Proofs.Decimal.Texts
import RankedRetrieval.Proofs.Text.Lines

/-!
# Feature lines that are read back

The query and the document of every row are found again in the lines of the rows, unless the query
ends in a number sign.

## Main Definitions

* `FeatureFile.IsQuery`, `FeatureFile.IsDocument` — what can be told apart in a feature line
* `FeatureRow.Legible` — rows whose query is a word and whose document has a name
* `FeatureRow.Plain` — legible rows whose query holds no number sign
* `FeatureRow.readName` — what is read as the document of a row

## Main Results

* `FeatureFile.readLine_body` — what is read from the line of a row
* `FeatureFile.lines_join` — the lines of a file are those of its rows
* `FeatureFile.readIds_written` — what is read from a file of rows, and when it is what was written

## Design Notes

**Most of what stands in front of the document is harmless.**  The features are written in the
characters of numerals, and the query holds no blanks.  So the first mark of a query is the one
behind the relevance, and a number sign inside of the query is not followed by a blank.

**The end of the query is not.**  Whatever follows the query begins with a blank.  A query that ends
in a number sign therefore makes up a mark of its own, and all that stands behind it is taken for
the document.
-/

namespace RankedRetrieval

namespace Text

/-! ### Trimmed texts -/

theorem head?_dropBlanks {cs : List Char} {c : Char} (first : (dropBlanks cs).head? = some c) :
    isBlank c = false := by
  have stopped := List.head?_dropWhile_not isBlank cs
  rw [dropBlanks] at first
  simpa [first] using stopped

/-- A text that is trimmed does not end in a blank. -/
theorem isBlank_of_getLast? {cs : List Char} (trimmed : trimChars cs = cs) {c : Char}
    (last : cs.getLast? = some c) : isBlank c = false := by
  rw [← trimmed, trimChars, List.getLast?_reverse] at last
  exact head?_dropBlanks last

theorem dropBlanks_of_head? {cs : List Char} (first : ∀ c ∈ cs.head?, isBlank c = false) :
    dropBlanks cs = cs := by
  cases cs with
  | nil => rfl
  | cons c cs => rw [dropBlanks, List.dropWhile_cons_of_neg (by simp [first c rfl])]

/-- A text that neither begins nor ends in a blank is trimmed. -/
theorem trimChars_of_ends {cs : List Char} (first : ∀ c ∈ cs.head?, isBlank c = false)
    (last : ∀ c ∈ cs.getLast?, isBlank c = false) : trimChars cs = cs := by
  have backwards : ∀ c ∈ cs.reverse.head?, isBlank c = false := by
    rwa [List.head?_reverse]
  rw [trimChars, dropBlanks_of_head? first, dropBlanks_of_head? backwards, List.reverse_reverse]

/-! ### Marks -/

/-- Characters other than the first one of a pattern are passed over. -/
theorem after?_of_fresh {c : Char} {pattern before : List Char} (fresh : c ∉ before)
    (rest : List Char) :
    after? (c :: pattern) (before ++ rest) = after? (c :: pattern) rest := by
  induction before with
  | nil => rfl
  | cons d before ih =>
    obtain ⟨different, others⟩ := List.ne_and_not_mem_of_not_mem_cons fresh
    rw [List.cons_append, after?, if_neg, ih others]
    simp [List.isPrefixOf, different]

/-- A word without the second character of a pattern is passed over, unless the pattern begins with
its end. -/
theorem after?_of_solid {c d : Char} {word rest : List Char} (solid : d ∉ word)
    (apart : word.getLast? = some c → rest.head? ≠ some d) :
    after? [c, d] (word ++ rest) = after? [c, d] rest := by
  induction word with
  | nil => rfl
  | cons e word ih =>
    obtain ⟨-, others⟩ := List.ne_and_not_mem_of_not_mem_cons solid
    have no_mark : ¬ ([c, d].isPrefixOf (e :: (word ++ rest)) = true) := by
      intro marked
      cases word with
      | nil =>
        cases rest with
        | nil => simp [List.isPrefixOf] at marked
        | cons f rest =>
          obtain ⟨rfl, rfl⟩ : c = e ∧ d = f := by simpa [List.isPrefixOf] using marked
          exact apart rfl rfl
      | cons f word =>
        obtain ⟨-, rfl⟩ : c = e ∧ d = f := by simpa [List.isPrefixOf] using marked
        exact others List.mem_cons_self
    rw [List.cons_append, after?, if_neg no_mark]
    refine ih others ?_
    intro last
    cases word with
    | nil => simp at last
    | cons f word => exact apart (by rwa [List.getLast?_cons_cons])

/-- What follows a pattern at the beginning of a text. -/
theorem after?_self (c : Char) (pattern rest : List Char) :
    after? (c :: pattern) (c :: pattern ++ rest) = some rest := by
  rw [List.cons_append, after?, if_pos, ← List.cons_append, List.drop_left]
  rw [← List.cons_append, List.isPrefixOf_iff_prefix]
  exact List.prefix_append _ _

end Text

namespace FeatureFile

/-- The word behind the first mark, whose first character does not occur before. -/
theorem wordAfter?_append {c : Char} {mark before word rest : List Char} (fresh : c ∉ before)
    (nonempty : word ≠ []) (solid : ∀ d ∈ word, Text.isBlank d = false)
    (ended : ∀ d ∈ rest.head?, Text.isBlank d = true) :
    wordAfter? (c :: mark) (before ++ (c :: mark ++ (word ++ rest))) = some word := by
  induction before with
  | nil =>
    have taken : (word ++ rest).takeWhile (fun d => !Text.isBlank d) = word := by
      have nothing : rest.takeWhile (fun d => !Text.isBlank d) = [] := by
        cases rest with
        | nil => rfl
        | cons d rest => simp [ended d (by simp)]
      rw [List.takeWhile_append_of_pos (by simpa using solid), nothing, List.append_nil]
    have marked : (c :: mark).isPrefixOf (c :: (mark ++ (word ++ rest))) = true := by
      rw [List.isPrefixOf_iff_prefix, ← List.cons_append]
      exact List.prefix_append _ _
    rw [List.nil_append, List.cons_append, wordAfter?, if_pos marked]
    dsimp only
    rw [← List.cons_append, List.drop_left, taken, if_neg (by simpa using nonempty)]
  | cons d before ih =>
    obtain ⟨different, others⟩ := List.ne_and_not_mem_of_not_mem_cons fresh
    rw [List.cons_append, wordAfter?, if_neg, ih others]
    simp [List.isPrefixOf, different]

end FeatureFile

/-! ### Rows -/

/-- The number of a query that can stand in a feature line: it is neither empty nor does it hold
a blank or a number sign. -/
structure FeatureFile.IsQuery (qid : String) : Prop where
  /-- It is not empty. -/
  nonempty : qid.toList ≠ []
  /-- It holds no blank. -/
  solid : ∀ c ∈ qid.toList, Text.isBlank c = false
  /-- It holds no number sign. -/
  unsigned : '#' ∉ qid.toList

/-- The name of a document that can stand in a feature line: it is not empty, stays on its line,
and neither begins nor ends with a blank. -/
structure FeatureFile.IsDocument (name : String) : Prop where
  /-- It is not empty. -/
  nonempty : name.toList ≠ []
  /-- It stays on its line. -/
  whole : '\n' ∉ name.toList
  /-- There is no blank around it. -/
  trimmed : Text.trimChars name.toList = name.toList

instance FeatureFile.isDocumentDecidable (name : String) :
    Decidable (FeatureFile.IsDocument name) :=
  decidable_of_iff (name.toList ≠ [] ∧ '\n' ∉ name.toList ∧
      Text.trimChars name.toList = name.toList)
    ⟨fun ⟨nonempty, whole, trimmed⟩ => ⟨nonempty, whole, trimmed⟩,
      fun name => ⟨name.nonempty, name.whole, name.trimmed⟩⟩

namespace FeatureRow

/-- A row whose query and document can stand in a feature line. -/
structure Plain (row : FeatureRow Number) : Prop where
  /-- The query can. -/
  query : FeatureFile.IsQuery row.qid
  /-- The document can. -/
  document : FeatureFile.IsDocument row.externalId

/-- A row whose document can stand in a feature line, and whose query is a word. -/
structure Legible (row : FeatureRow Number) : Prop where
  /-- The query is not empty. -/
  nonempty : row.qid.toList ≠ []
  /-- The query holds no blank. -/
  solid : ∀ c ∈ row.qid.toList, Text.isBlank c = false
  /-- The document can stand in a line. -/
  document : FeatureFile.IsDocument row.externalId

instance legibleDecidable (row : FeatureRow Number) : Decidable row.Legible :=
  decidable_of_iff (row.qid.toList ≠ [] ∧ row.qid.toList.any Text.isBlank = false ∧
      FeatureFile.IsDocument row.externalId)
    ⟨fun ⟨nonempty, solid, document⟩ =>
        ⟨nonempty, by simpa only [List.any_eq_false, Bool.not_eq_true] using solid, document⟩,
      fun row => ⟨row.nonempty,
        by simpa only [List.any_eq_false, Bool.not_eq_true] using row.solid, row.document⟩⟩

theorem Plain.legible {row : FeatureRow Number} (plain : row.Plain) : row.Legible :=
  ⟨plain.query.nonempty, plain.query.solid, plain.document⟩

variable {disabled : List Nat} {row : FeatureRow Number}

/-- The characters between the query and the document of a line. -/
theorem char_of_mem_entries {n : Nat} {features : FeatureVector Number} {c : Char}
    (member : c ∈ (String.join (entries disabled n features)).toList) :
    c = ' ' ∨ c = ':' ∨ Decimal.NumeralChar c := by
  fun_induction entries disabled n features with
  | case1 => simp at member
  | case2 n rest ih => exact ih member
  | case3 n v rest off ih => exact ih member
  | case4 n v rest on ih =>
    rw [String.join_cons, String.toList_append, List.mem_append] at member
    rcases member with here | later
    · simp only [String.toList_append, List.mem_append] at here
      rcases here with ((blank | number) | colon) | value
      · exact .inl (by simpa using blank)
      · exact .inr (.inr (Decimal.numeralChar_of_mem_natRepr number))
      · exact .inr (.inl (by simpa using colon))
      · exact .inr (.inr ((Decimal.numberText_shortest v.value).numeralChar c value))
    · exact ih later

/-- A blank stands behind the query of a line, and none behind this blank. -/
theorem exists_entries_append (disabled : List Nat) (n : Nat) (features : FeatureVector Number)
    (rest : List Char) :
    ∃ c more, (String.join (entries disabled n features)).toList ++ ' ' :: '#' :: rest =
      ' ' :: c :: more ∧ Text.isBlank c = false := by
  fun_induction entries disabled n features with
  | case1 => exact ⟨'#', rest, rfl, by decide⟩
  | case2 n features ih => exact ih
  | case3 n v features off ih => exact ih
  | case4 n v features on ih =>
    obtain ⟨c, more, spelled⟩ := List.exists_cons_of_ne_nil (Decimal.toList_natRepr_ne_nil n)
    have digit : Decimal.isDigit c = true := by
      refine Decimal.isDigit_of_mem_natRepr (?_ : c ∈ (Nat.repr n).toList)
      rw [spelled]
      exact List.mem_cons_self
    refine ⟨c, more ++ ':' :: ((Numeral.text v).toList ++
      ((String.join (entries disabled (n + 1) features)).toList ++ ' ' :: '#' :: rest)), ?_,
      Decimal.isBlank_of_isDigit digit⟩
    simp [spelled]

/-- The line of a row without its ending. -/
def body (disabled : List Nat) (row : FeatureRow Number) : String :=
  row.relevance.repr ++ " qid:" ++ row.qid
    ++ String.join (entries disabled 1 row.features) ++ " # " ++ row.externalId

theorem text_eq_body (disabled : List Nat) (row : FeatureRow Number) :
    row.text disabled = row.body disabled ++ "\n" := rfl

/-- What stands in a line in front of its query. -/
def ahead (row : FeatureRow Number) : List Char :=
  row.relevance.repr.toList ++ [' ', 'q', 'i', 'd', ':']

/-- What stands in a line behind its query. -/
def behind (disabled : List Nat) (row : FeatureRow Number) : List Char :=
  (String.join (entries disabled 1 row.features)).toList ++
    ' ' :: '#' :: ' ' :: row.externalId.toList

theorem toList_body (disabled : List Nat) (row : FeatureRow Number) :
    (row.body disabled).toList = row.ahead ++ (row.qid.toList ++ row.behind disabled) := by
  simp [body, ahead, behind]

/-- Neither in front of the query nor between the query and the document stands a character that
is neither a mark nor one of a numeral. -/
theorem not_mem_frame {c : Char} (no_mark : c ∉ [' ', 'q', 'i', 'd', ':'])
    (no_numeral : ¬ Decimal.NumeralChar c) :
    c ∉ row.ahead ∧ c ∉ (String.join (entries disabled 1 row.features)).toList := by
  constructor
  · intro member
    rcases List.mem_append.1 member with number | mark
    · exact no_numeral (Decimal.numeralChar_of_mem_intRepr number)
    · exact no_mark mark
  · intro member
    rcases char_of_mem_entries member with rfl | rfl | numeral
    · exact no_mark (by decide)
    · exact no_mark (by decide)
    · exact no_numeral numeral

theorem lineFeed_not_mem_body (legible : row.Legible) : '\n' ∉ (row.body disabled).toList := by
  obtain ⟨not_ahead, not_entry⟩ :=
    @not_mem_frame disabled row '\n' (by decide) (by decide)
  have not_qid : '\n' ∉ row.qid.toList := by
    intro member
    exact absurd (legible.solid '\n' member) (by decide)
  rw [toList_body, behind]
  simp only [List.mem_append, List.mem_cons, not_or]
  exact ⟨not_ahead, not_qid, not_entry, by decide, by decide, by decide,
    legible.document.whole⟩

/-- What ends in the name of a document does not end in a blank. -/
theorem isBlank_of_getLast?_append {before : List Char} {c : Char} (legible : row.Legible)
    (last : (before ++ row.externalId.toList).getLast? = some c) : Text.isBlank c = false := by
  rw [List.getLast?_append, Option.or_of_isSome (by simpa using legible.document.nonempty)] at last
  exact Text.isBlank_of_getLast? legible.document.trimmed last

/-- A line ends as its document does. -/
theorem getLast?_body (legible : row.Legible) :
    (row.body disabled).toList.getLast? ≠ some '\r' := by
  intro last
  have split : (row.body disabled).toList = (row.ahead ++ (row.qid.toList ++
      ((String.join (entries disabled 1 row.features)).toList ++ [' ', '#', ' ']))) ++
        row.externalId.toList := by
    simp [toList_body, behind]
  rw [split] at last
  exact absurd (isBlank_of_getLast?_append legible last) (by decide)

/-! ### Documents that are read -/

/-- What is read as the document of a row: all that stands behind a query that ends in a number
sign, and the name of the document otherwise. -/
def readName (disabled : List Nat) (row : FeatureRow Number) : String :=
  if row.qid.toList.getLast? = some '#' then String.ofList (row.behind disabled).tail
  else row.externalId

theorem Plain.readName_eq (plain : row.Plain) : row.readName disabled = row.externalId := by
  refine if_neg ?_
  intro last
  exact plain.query.unsigned (List.mem_of_getLast? last)

/-- The document is read as it was written exactly if the query does not end in a number sign. -/
theorem readName_eq_iff (row : FeatureRow Number) (disabled : List Nat) :
    row.readName disabled = row.externalId ↔ row.qid.toList.getLast? ≠ some '#' := by
  constructor
  · intro same last
    rw [readName, if_pos last] at same
    have lengths := congrArg (fun name => name.toList.length) same
    simp [behind] at lengths
    omega
  · intro other
    exact if_neg other

/-- What is read is not empty, and there is no blank around it. -/
theorem readName_trimmed (disabled : List Nat) (legible : row.Legible) :
    (row.readName disabled).toList ≠ [] ∧
      Text.trimChars (row.readName disabled).toList = (row.readName disabled).toList := by
  unfold readName
  split
  · obtain ⟨c, more, spelled, visible⟩ :=
      exists_entries_append disabled 1 row.features (' ' :: row.externalId.toList)
    have first : (row.behind disabled).tail = c :: more := by
      rw [behind, spelled, List.tail_cons]
    have last : (row.behind disabled).tail =
        ((String.join (entries disabled 1 row.features)).toList ++ [' ', '#', ' ']).tail ++
          row.externalId.toList := by
      rw [← List.tail_append_of_ne_nil (by simp)]
      simp [behind]
    rw [String.toList_ofList]
    refine ⟨by rw [first]; exact List.cons_ne_nil c more, Text.trimChars_of_ends ?_ ?_⟩
    · rw [first]
      simpa using visible
    · rw [last]
      intro d ends
      exact isBlank_of_getLast?_append legible ends
  · exact ⟨legible.document.nonempty, legible.document.trimmed⟩

/-- The first mark of a document stands in front of what is read. -/
theorem after?_body (legible : row.Legible) :
    Text.after? ['#', ' '] (row.body disabled).toList = some (row.readName disabled).toList := by
  have blank_free : ' ' ∉ row.qid.toList := by
    intro member
    exact absurd (legible.solid ' ' member) (by decide)
  obtain ⟨not_ahead, not_entry⟩ :=
    @not_mem_frame disabled row '#' (by decide) (by decide)
  rw [toList_body, Text.after?_of_fresh not_ahead, readName]
  split
  · rename_i last
    obtain ⟨word, split⟩ := List.getLast?_eq_some_iff.1 last
    obtain ⟨c, more, spelled, -⟩ :=
      exists_entries_append disabled 1 row.features (' ' :: row.externalId.toList)
    rw [split] at blank_free ⊢
    rw [behind, spelled, List.append_assoc, Text.after?_of_solid]
    · rw [String.toList_ofList]
      exact Text.after?_self '#' [' '] (c :: more)
    · intro member
      exact blank_free (List.mem_append_left _ member)
    · simp
  · rename_i other
    have parts : row.behind disabled = ((String.join (entries disabled 1 row.features)).toList ++
        [' ']) ++ (['#', ' '] ++ row.externalId.toList) := by
      simp [behind]
    rw [Text.after?_of_solid blank_free fun last => absurd last other, parts, Text.after?_of_fresh]
    · exact Text.after?_self '#' [' '] row.externalId.toList
    · rw [List.mem_append, not_or]
      exact ⟨not_entry, by decide⟩

/-- The first mark of a query stands in front of the query. -/
theorem wordAfter?_body (legible : row.Legible) :
    FeatureFile.wordAfter? ['q', 'i', 'd', ':'] (row.body disabled).toList =
      some row.qid.toList := by
  have parts : (row.body disabled).toList = (row.relevance.repr.toList ++ [' ']) ++
      (['q', 'i', 'd', ':'] ++ (row.qid.toList ++ row.behind disabled)) := by
    simp [toList_body, ahead]
  rw [parts]
  refine FeatureFile.wordAfter?_append ?_ legible.nonempty legible.solid ?_
  · intro member
    rcases List.mem_append.1 member with number | blank
    · exact absurd (Decimal.numeralChar_of_mem_intRepr number) (by decide)
    · exact absurd blank (by decide)
  · intro d first
    obtain ⟨c, more, spelled, -⟩ :=
      exists_entries_append disabled 1 row.features (' ' :: row.externalId.toList)
    rw [behind, spelled] at first
    obtain rfl : ' ' = d := by simpa using first
    decide

end FeatureRow

/-! ### Files -/

namespace FeatureFile

variable {disabled : List Nat}

/-- What is read from the line of a row. -/
theorem readLine_body {row : FeatureRow Number} (legible : row.Legible) :
    readLine (row.body disabled) = .ok (some (row.qid, row.readName disabled)) := by
  obtain ⟨nonempty, trimmed⟩ := FeatureRow.readName_trimmed disabled legible
  have document : restAfter? "# ".toList (row.body disabled).toList =
      some (row.readName disabled).toList := by
    show (Text.after? ['#', ' '] _).filter _ = _
    rw [FeatureRow.after?_body legible, Option.filter_some, if_pos (by simpa using nonempty)]
  have query : wordAfter? "qid:".toList (row.body disabled).toList = some row.qid.toList :=
    FeatureRow.wordAfter?_body legible
  have not_blank : Text.isBlankText (row.body disabled) = false := by
    rw [Text.isBlankText, List.all_eq_false]
    refine ⟨'#', ?_, by decide⟩
    simp [FeatureRow.toList_body, FeatureRow.behind]
  rw [readLine, not_blank, query, document]
  simp [trimmed]

/-- The lines of legible rows are as many as the rows. -/
theorem lines_join_of_legible {rows : List (FeatureRow Number)}
    (legible : ∀ row ∈ rows, row.Legible) :
    Text.lines (String.join (rows.map (FeatureRow.text disabled))) =
      rows.map (FeatureRow.body disabled) := by
  have texts : rows.map (FeatureRow.text disabled) =
      (rows.map (FeatureRow.body disabled)).map fun b => b ++ "\n" := by
    rw [List.map_map]
    exact List.map_congr_left fun row _ => row.text_eq_body disabled
  rw [texts]
  exact Text.lines_join
    (List.forall_mem_map.2 fun row hrow => FeatureRow.lineFeed_not_mem_body (legible row hrow))
    (List.forall_mem_map.2 fun row hrow => FeatureRow.getLast?_body (legible row hrow))

theorem lines_join {rows : List (FeatureRow Number)} (plain : ∀ row ∈ rows, row.Plain) :
    Text.lines (String.join (rows.map (FeatureRow.text disabled))) =
      rows.map (FeatureRow.body disabled) :=
  lines_join_of_legible fun row hrow => (plain row hrow).legible

/-- What is read from the lines of legible rows. -/
theorem readIds_join_of_legible (disabled : List Nat) {rows : List (FeatureRow Number)}
    (legible : ∀ row ∈ rows, row.Legible) :
    readIds (String.join (rows.map (FeatureRow.text disabled))) =
      .ok (rows.map fun row => (row.qid, row.readName disabled)) := by
  rw [readIds, Content.readText, lines_join_of_legible legible,
    Content.readLines_some fun row hrow => readLine_body (legible row hrow)]

/-- The queries and documents of the lines of plain rows are those of the rows. -/
theorem readIds_join {rows : List (FeatureRow Number)} (plain : ∀ row ∈ rows, row.Plain) :
    readIds (String.join (rows.map (FeatureRow.text disabled))) =
      .ok (rows.map fun row => (row.qid, row.externalId)) := by
  rw [readIds_join_of_legible disabled fun row hrow => (plain row hrow).legible]
  congr 1
  refine List.map_congr_left ?_
  intro row hrow
  rw [(plain row hrow).readName_eq]

/-- From the lines of legible rows all queries are read, and all documents of queries that do not
end in a number sign.  So what is read is what was written exactly if no query ends in a number
sign. -/
theorem readIds_written (disabled : List Nat) {rows : List (FeatureRow Number)}
    (legible : ∀ row ∈ rows, row.Legible) :
    readIds (String.join (rows.map (FeatureRow.text disabled))) =
        .ok (rows.map fun row => (row.qid, row.readName disabled)) ∧
      (∀ row ∈ rows, row.readName disabled = row.externalId ↔
        row.qid.toList.getLast? ≠ some '#') ∧
      (readIds (String.join (rows.map (FeatureRow.text disabled))) =
          .ok (rows.map fun row => (row.qid, row.externalId)) ↔
        ∀ row ∈ rows, row.qid.toList.getLast? ≠ some '#') := by
  have read := readIds_join_of_legible disabled legible
  refine ⟨read, ?_, ?_⟩
  · intro row _
    exact row.readName_eq_iff disabled
  · rw [read, Except.ok.injEq, List.map_inj_left]
    refine forall₂_congr ?_
    intro row _
    rw [← row.readName_eq_iff disabled, Prod.mk.injEq]
    exact and_iff_right rfl

/-- Number signs inside of a query and of a document. -/
theorem readIds_written_inside :
    let rows : List (FeatureRow Number) :=
      [⟨"a#b", "d # qid:1", 2, [some 0.5, none]⟩, ⟨"#7", "e", 0, []⟩]
    (∀ row ∈ rows, row.Legible) ∧
      readIds (String.join (rows.map (FeatureRow.text [2]))) =
        .ok [("a#b", "d # qid:1"), ("#7", "e")] := by
  intro rows
  have legible : ∀ row ∈ rows, row.Legible := by decide +kernel
  have inside : ∀ row ∈ rows, row.qid.toList.getLast? ≠ some '#' := by decide +kernel
  obtain ⟨-, -, faithful⟩ := readIds_written [2] legible
  exact ⟨legible, faithful.2 inside⟩

/-- A number sign at the end of a query. -/
theorem readIds_misled :
    let row : FeatureRow Number := ⟨"7#", "d0", 0, [some 0.5]⟩
    row.Legible ∧
      readIds (String.join ([row].map (FeatureRow.text []))) = .ok [("7#", "1:0.5 # d0")] ∧
      readIds (String.join ([row].map (FeatureRow.text []))) ≠ .ok [("7#", "d0")] := by
  intro row
  have legible : row.Legible := by decide +kernel
  have read : readIds (String.join ([row].map (FeatureRow.text []))) =
      .ok [("7#", "1:0.5 # d0")] := by decide +kernel
  refine ⟨legible, read, ?_⟩
  rw [read]
  decide

end FeatureFile

end RankedRetrieval
