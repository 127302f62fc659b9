import RankedRetrieval.Proofs.Json.Reading
import RankedRetrieval.Snapshot.Metadata

/-!
# The metadata of a snapshot is read back

## Main Results

* `Metadata.parse?_text` — the metadata that has been written is read, whatever the time is given
  as
-/

namespace RankedRetrieval.Metadata

open Json

/-- The metadata as it stands in the text, member by member. -/
theorem toList_text (m : Metadata) :
    m.text.toList =
      '{' :: '\n' :: ' ' :: ' ' :: ((quote "num_docs").toList ++ ':' :: ' ' ::
        ((Nat.repr m.docs).toList ++ ',' :: '\n' :: ' ' :: ' ' ::
          ((quote "created_at").toList ++ ':' :: ' ' ::
            ((quote m.createdAt).toList ++ ',' :: '\n' :: ' ' :: ' ' ::
              ((quote "version").toList ++ ':' :: ' ' ::
                ((Nat.repr m.version).toList ++ ['\n', '}'])))))) := by
  have written : m.text =
      "\x7b\n  \"num_docs\": " ++ Nat.repr m.docs ++ ",\n  \"created_at\": " ++
        quote m.createdAt ++ ",\n  \"version\": " ++ Nat.repr m.version ++ "\n\x7d" := rfl
  have docs : (quote "num_docs").toList = "\"num_docs\"".toList := by decide
  have createdAt : (quote "created_at").toList = "\"created_at\"".toList := by decide
  have version : (quote "version").toList = "\"version\"".toList := by decide
  rw [written, docs, createdAt, version]
  simp [String.toList_append]

theorem skipBlanks_line (name : String) (rest : List Char) :
    skipBlanks ('\n' :: ' ' :: ' ' :: ((quote name).toList ++ rest)) =
      (quote name).toList ++ rest := by
  have written : (quote name).toList = '"' :: (name.toList.flatMap quoteChar ++ ['"']) := by
    simp [quote]
  rw [written]
  rfl

/-- The text denotes an object of three members. -/
theorem readValue?_text (fuel : Nat) (m : Metadata) :
    readValue? (fuel + 5) m.text.toList =
      some (object [(some "num_docs", natural m.docs),
        (some "created_at", .text (some m.createdAt)), (some "version", natural m.version)],
        []) := by
  have ends_comma (cs : List Char) : EndsNumber (',' :: cs) := by
    rintro c ⟨⟩
    decide
  have ends_line (cs : List Char) : EndsNumber ('\n' :: cs) := by
    rintro c ⟨⟩
    decide
  rw [toList_text]
  refine readValue?_object (skipBlanks_line _ _) ?_
  rw [readMembers?_cons (skipBlanks_line _ _) ((readValue?_blank _ _).trans
      (readValue?_repr _ _ (ends_comma _))) rfl,
    readMembers?_cons (skipBlanks_line _ _) ((readValue?_blank _ _).trans
      (readValue?_quote _ _ _)) rfl,
    readMembers?_singleton (skipBlanks_line _ _) ((readValue?_blank _ _).trans
      (readValue?_repr _ _ (ends_line _))) rfl]
  rfl

/-- The metadata that has been written is read. -/
theorem parse?_text {m : Metadata} (docs : m.docs ≤ Decimal.greatestWord)
    (version : m.version ≤ Decimal.greatestWord) : parse? m.text = some m := by
  have long : 2 ≤ m.text.length := by
    rw [← String.length_toList, toList_text]
    simp
  obtain ⟨fuel, enough⟩ : ∃ fuel, 2 * m.text.length + 2 = fuel + 5 :=
    ⟨2 * m.text.length - 3, by omega⟩
  have read : Json.parse? m.text = some (object [(some "num_docs", natural m.docs),
      (some "created_at", .text (some m.createdAt)), (some "version", natural m.version)]) := by
    rw [Json.parse?, enough, readValue?_text]
    rfl
  rw [parse?, read]
  simp [ofJson?, member?, word?, text?, docs, version]

end RankedRetrieval.Metadata
