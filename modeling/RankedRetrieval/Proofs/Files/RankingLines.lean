import Mathlib.Data.List.Forall2
import Mathlib.Data.List.Induction
import RankedRetrieval.Files.Rankings
import RankedRetrieval.Proofs.Decimal.Texts
import RankedRetrieval.Proofs.Index.Contents
import RankedRetrieval.Proofs.Text.Lines

/-!
# Ranking lines that are read back

What has been written of the results of queries is read again: every query has its documents, in the
order in which they were written, with the scores that their texts denote.

## Main Definitions

* `RankingFile.Legible` — results whose query and documents can stand in a column
* `RankingFile.rows` — the documents of results with their queries and ranks
* `RankingFile.documentsOf` — what has been written of a query
* `RankingFile.ReadBack` — a table that holds what has been written of all queries

## Main Results

* `RankingFile.get?_group` — grouping keeps the values of a key in their order
* `RankingFile.text_eq_bodies` — the columns of the lines of results
* `RankingFile.readLine_body` — what is read from the line of a document
* `RankingFile.read_texts` — the rows of results are read from their texts
* `RankingFile.read_written` — what has been written of the results of queries is read back

## Design Notes

**A line is known from its columns.**  It consists of six texts with single blanks between them, of
which none is empty or holds a blank, so splitting at blanks finds the same six.

**Queries may come again.**  The results of a query may be written in several blocks, with those of
other queries in between, and a block may be empty.  What is read of a query are its blocks one
after the other.
-/

namespace RankedRetrieval.RankingFile

/-! ### Groups -/

section Groups

variable {κ β : Type} [DecidableEq κ]

/-- The values of a key among some entries. -/
def valuesOf (key : κ) (entries : List (κ × β)) : List β :=
  (entries.filter fun entry => entry.1 = key).map Prod.snd

theorem valuesOf_append (key : κ) (entries more : List (κ × β)) :
    valuesOf key (entries ++ more) = valuesOf key entries ++ valuesOf key more := by
  rw [valuesOf, List.filter_append, List.map_append, valuesOf, valuesOf]

/-- Grouping keeps the values of a key in their order, and knows no other keys. -/
theorem get?_group (entries : List (κ × β)) (key : κ) :
    (group entries).get? key =
      if valuesOf key entries = [] then none else some (valuesOf key entries) := by
  have fresh : (∅ : Table κ (List β)).get? key = none := rfl
  rw [group, Table.get?_foldl_adjust Prod.fst fun entry earlier => earlier.getD [] ++ [entry.2],
    fresh, valuesOf]
  induction entries.filter (fun entry => entry.1 = key) using List.reverseRecOn with
  | nil => rfl
  | append_singleton before entry ih =>
    rw [List.foldl_append, ih]
    split
    · rename_i nothing
      simp [List.map_eq_nil_iff.1 nothing]
    · simp

theorem mem_keys_group {entries : List (κ × β)} {key : κ} :
    key ∈ (group entries).keys ↔ valuesOf key entries ≠ [] := by
  rw [Table.mem_keys_iff, get?_group]
  split
  · rename_i nothing
    simp [nothing]
  · rename_i something
    simp [something]

end Groups

/-! ### Lines -/

/-- The columns of the line of a document at a rank. -/
def columnsOf (qid : String) (rank : Nat) (entry : ScoredDocument Number) : List String :=
  [qid, "Q0", entry.externalId, Nat.repr rank, Numeral.fixed 12 entry.score, "fubar"]

/-- The line of a document at a rank, without its ending. -/
def body (qid : String) (rank : Nat) (entry : ScoredDocument Number) : String :=
  " ".intercalate (columnsOf qid rank entry)

theorem line_eq_body (qid : String) (rank : Nat) (entry : ScoredDocument Number) :
    line qid rank entry = body qid rank entry ++ "\n" := by
  apply String.ext
  simp [line, body, columnsOf]

theorem column_natRepr (n : Nat) : Text.Column (Nat.repr n) where
  nonempty := Decimal.toList_natRepr_ne_nil n
  solid _ member := Decimal.isBlank_of_isDigit (Decimal.isDigit_of_mem_natRepr member)

theorem column_fixed (places : Nat) (x : Number) : Text.Column (Numeral.fixed places x) where
  nonempty := (Decimal.numberText_fixed places x.value).ne_nil
  solid c member :=
    Decimal.isBlank_of_numeralChar ((Decimal.numberText_fixed places x.value).numeralChar c member)

section Body

variable {qid : String} {rank : Nat} {entry : ScoredDocument Number}

theorem column_of_mem_columnsOf (query : Text.Column qid)
    (document : Text.Column entry.externalId) : ∀ w ∈ columnsOf qid rank entry, Text.Column w := by
  intro w hw
  simp only [columnsOf, List.mem_cons, List.not_mem_nil, or_false] at hw
  rcases hw with rfl | rfl | rfl | rfl | rfl | rfl
  · exact query
  · decide
  · exact document
  · exact column_natRepr rank
  · exact column_fixed 12 entry.score
  · decide

/-- A line does not break in itself. -/
theorem lineFeed_not_mem_body (query : Text.Column qid)
    (document : Text.Column entry.externalId) : '\n' ∉ (body qid rank entry).toList := by
  intro member
  rcases Text.isBlank_of_mem_intercalate (column_of_mem_columnsOf query document) member with
    blank | solid
  · exact absurd blank (by decide)
  · exact absurd solid (by decide)

theorem getLast?_body : (body qid rank entry).toList.getLast? ≠ some '\r' := by
  have ends : (body qid rank entry).toList = (qid ++ " Q0 " ++ entry.externalId ++ " "
      ++ Nat.repr rank ++ " " ++ Numeral.fixed 12 entry.score ++ " fuba").toList ++ ['r'] := by
    simp [body, columnsOf]
  rw [ends, List.getLast?_concat]
  decide

/-- The number that the text of a score denotes. -/
def reread (x : Number) : Number :=
  (Numeral.read (Numeral.fixed 12 x)).toOption.getD x

theorem read_fixed (x : Number) : Numeral.read (Numeral.fixed 12 x) = .ok (reread x) := by
  obtain ⟨s, read⟩ := (Decimal.numberText_fixed 12 x.value).readNumber
  have same : (Numeral.read (Numeral.fixed 12 x) : Except NumeralError Number) = .ok s := read
  rw [reread, same]
  rfl

/-- What is read from the line of a document. -/
theorem readLine_body (query : Text.Column qid) (document : Text.Column entry.externalId) :
    readLine (body qid rank entry) = .ok (some (qid, entry.externalId, reread entry.score)) := by
  rw [readLine, body, Text.columns_intercalate (column_of_mem_columnsOf query document), columnsOf]
  dsimp only
  rw [read_fixed]

end Body

/-! ### Files -/

/-- Results whose query and documents can stand in a column. -/
structure Legible (qid : String) (list : ScoreList Number) : Prop where
  /-- The query can. -/
  query : Text.Column qid
  /-- The documents can. -/
  documents : ∀ entry ∈ list.entries, Text.Column entry.externalId

instance legibleDecidable (qid : String) (list : ScoreList Number) : Decidable (Legible qid list) :=
  decidable_of_iff (Text.Column qid ∧ ∀ entry ∈ list.entries, Text.Column entry.externalId)
    ⟨fun ⟨query, documents⟩ => ⟨query, documents⟩,
      fun legible => ⟨legible.query, legible.documents⟩⟩

/-- The documents of a query with the query and their ranks. -/
def block (r : String × ScoreList Number) : List (String × ScoredDocument Number × Nat) :=
  (r.2.entries.zipIdx 1).map fun ranked => (r.1, ranked)

/-- The documents of all queries, in the order of writing. -/
def rows (results : List (String × ScoreList Number)) :
    List (String × ScoredDocument Number × Nat) :=
  results.flatMap block

/-- The line of a row. -/
def rowBody (row : String × ScoredDocument Number × Nat) : String :=
  body row.1 row.2.2 row.2.1

/-- What is read from the line of a row. -/
def rowItem (row : String × ScoredDocument Number × Nat) : String × String × Number :=
  (row.1, row.2.1.externalId, reread row.2.1.score)

theorem linesFrom_eq_map (qid : String) (rank : Nat) (entries : List (ScoredDocument Number)) :
    linesFrom qid rank entries =
      (entries.zipIdx rank).map fun ranked => line qid ranked.2 ranked.1 := by
  induction entries generalizing rank with
  | nil => rfl
  | cons entry entries ih => rw [linesFrom, ih, List.zipIdx_cons, List.map_cons]

/-- The lines of results have the columns of their documents, whose ranks count from one. -/
theorem text_eq_bodies (qid : String) (list : ScoreList Number) :
    text qid list = String.join
      ((list.entries.zipIdx 1).map fun ranked => body qid ranked.2 ranked.1 ++ "\n") := by
  rw [text, linesFrom_eq_map]
  exact congrArg String.join (List.map_congr_left fun ranked _ => line_eq_body _ _ _)

theorem text_eq_block (r : String × ScoreList Number) :
    text r.1 r.2 = String.join ((block r).map fun row => rowBody row ++ "\n") := by
  rw [text_eq_bodies, block, List.map_map]
  rfl

section Results

variable {results : List (String × ScoreList Number)}

/-- The texts of results are the lines of their rows. -/
theorem join_texts_eq_rows (results : List (String × ScoreList Number)) :
    String.join (results.map fun r => text r.1 r.2) =
      String.join ((rows results).map fun row => rowBody row ++ "\n") := by
  induction results with
  | nil => rfl
  | cons r results ih =>
    have parts : rows (r :: results) = block r ++ rows results := List.flatMap_cons
    rw [List.map_cons, String.join_cons, ih, text_eq_block, parts, List.map_append,
      String.join_append]

theorem column_of_mem_rows (legible : ∀ r ∈ results, Legible r.1 r.2) :
    ∀ row ∈ rows results, Text.Column row.1 ∧ Text.Column row.2.1.externalId := by
  intro row member
  obtain ⟨r, hr, of_block⟩ := List.mem_flatMap.1 member
  obtain ⟨ranked, hranked, rfl⟩ := List.mem_map.1 of_block
  have entry_mem : ranked.1 ∈ r.2.entries := by
    have among := List.mem_map_of_mem (f := Prod.fst) hranked
    rwa [List.zipIdx_map_fst] at among
  exact ⟨(legible r hr).query, (legible r hr).documents ranked.1 entry_mem⟩

/-- From the texts of results their rows are read. -/
theorem read_texts (legible : ∀ r ∈ results, Legible r.1 r.2) :
    read (Text.encode (String.join (results.map fun r => text r.1 r.2))) =
      .ok (group ((rows results).map rowItem)) := by
  have columns := column_of_mem_rows legible
  have whole : ∀ row ∈ rows results, '\n' ∉ (rowBody row).toList := fun row member =>
    lineFeed_not_mem_body (columns row member).1 (columns row member).2
  have reads : ∀ row ∈ rows results, readLine (rowBody row) = .ok (some (rowItem row)) :=
    fun row member => readLine_body (columns row member).1 (columns row member).2
  rw [read, Content.readBytes_encode, join_texts_eq_rows,
    Content.readText_join whole (fun _ _ => getLast?_body) reads]
  rfl

/-- The documents that have been written of a query, in the order of writing. -/
def documentsOf (qid : String) (results : List (String × ScoreList Number)) :
    List (ScoredDocument Number) :=
  (results.filter fun r => r.1 = qid).flatMap fun r => r.2.entries

/-- The name of a document and the number that is read of its score. -/
def readEntry (entry : ScoredDocument Number) : String × Number :=
  (entry.externalId, reread entry.score)

theorem valuesOf_block (qid : String) (r : String × ScoreList Number) :
    valuesOf qid ((block r).map rowItem) =
      if r.1 = qid then r.2.entries.map readEntry else [] := by
  have items : (block r).map rowItem = r.2.entries.map fun e => (r.1, readEntry e) := by
    have entries := List.zipIdx_map_fst 1 r.2.entries
    rw [block, List.map_map]
    conv_rhs => rw [← entries, List.map_map]
    rfl
  rw [items, valuesOf, List.filter_map]
  split
  · rename_i same
    simp [same, Function.comp_def]
  · rename_i other
    simp [other, Function.comp_def]

/-- What is read of a query are its documents. -/
theorem valuesOf_rows (qid : String) (results : List (String × ScoreList Number)) :
    valuesOf qid ((rows results).map rowItem) = (documentsOf qid results).map readEntry := by
  induction results with
  | nil => rfl
  | cons r results ih =>
    have parts : rows (r :: results) = block r ++ rows results := List.flatMap_cons
    rw [parts, List.map_append, valuesOf_append, ih, valuesOf_block]
    by_cases same : r.1 = qid
    · simp [documentsOf, same]
    · simp [documentsOf, same]

/-- What is read of a document: its name, and a number that the text of its score denotes. -/
structure ReadsAs (entry : ScoredDocument Number) (item : String × Number) : Prop where
  /-- The name is that of the document. -/
  name_eq : item.1 = entry.externalId
  /-- The number is read from the text of the score. -/
  score_eq : Numeral.read (Numeral.fixed 12 entry.score) = .ok item.2

/-- A table that holds what has been written of all queries. -/
structure ReadBack (results : List (String × ScoreList Number))
    (table : Table String (List (String × Number))) : Prop where
  /-- Its keys are the queries with at least one document. -/
  mem_keys_iff : ∀ qid, qid ∈ table.keys ↔ ∃ r ∈ results, r.1 = qid ∧ r.2.entries ≠ []
  /-- A query has all of its documents, in the order of writing. -/
  get?_eq : ∀ qid ∈ table.keys, ∃ items, table.get? qid = some items ∧
    List.Forall₂ ReadsAs (documentsOf qid results) items

theorem documentsOf_ne_nil_iff {qid : String} :
    documentsOf qid results ≠ [] ↔ ∃ r ∈ results, r.1 = qid ∧ r.2.entries ≠ [] := by
  simp [documentsOf]

theorem readBack_group (results : List (String × ScoreList Number)) :
    ReadBack results (group ((rows results).map rowItem)) := by
  have keys_iff (qid : String) :
      qid ∈ (group ((rows results).map rowItem)).keys ↔ documentsOf qid results ≠ [] := by
    rw [mem_keys_group, valuesOf_rows, ne_eq, List.map_eq_nil_iff]
  refine ⟨fun qid => (keys_iff qid).trans documentsOf_ne_nil_iff, fun qid member => ?_⟩
  refine ⟨(documentsOf qid results).map readEntry, ?_, ?_⟩
  · rw [get?_group, valuesOf_rows, if_neg (by simpa using (keys_iff qid).1 member)]
  · exact List.forall₂_map_right_iff.2
      (List.forall₂_same.2 fun entry _ => ⟨rfl, read_fixed entry.score⟩)

/-- What has been written of the results of queries is read back, if the queries and documents can
stand in a column. -/
theorem read_written (results : List (String × ScoreList Number))
    (legible : ∀ r ∈ results, Legible r.1 r.2) :
    ∃ table, read (Text.encode (String.join (results.map fun r => text r.1 r.2))) = .ok table ∧
      ReadBack results table :=
  ⟨_, read_texts legible, readBack_group results⟩

end Results

/-- Two blocks of a query with those of other queries in between, one of them empty, and scores that
are no finite numbers. -/
theorem read_written_interleaved :
    let results : List (String × ScoreList Number) :=
      [("7", ⟨[⟨0, "a", .notANumber true⟩, ⟨1, "ä", .ofFloat (Binary64.infinity true)⟩]⟩),
        ("8", .empty), ("9", ⟨[⟨2, "b", 0.5⟩]⟩), ("7", ⟨[⟨0, "a", 0.1⟩]⟩)]
    (∀ r ∈ results, Legible r.1 r.2) ∧
      ∃ table, read (Text.encode (String.join (results.map fun r => text r.1 r.2))) = .ok table ∧
        ReadBack results table ∧ "7" ∈ table.keys ∧ "8" ∉ table.keys := by
  intro results
  have legible : ∀ r ∈ results, Legible r.1 r.2 := by
    decide +kernel
  obtain ⟨table, read, back⟩ := read_written results legible
  refine ⟨legible, table, read, back, ?_, ?_⟩
  · exact (back.mem_keys_iff "7").2 (by decide +kernel)
  · rw [back.mem_keys_iff]
    decide +kernel

end RankedRetrieval.RankingFile
