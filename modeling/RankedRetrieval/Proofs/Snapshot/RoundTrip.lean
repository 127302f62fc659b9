import RankedRetrieval.Proofs.Files.Placing
import RankedRetrieval.Proofs.Snapshot.Layouts
import RankedRetrieval.Proofs.Snapshot.Metadata
import RankedRetrieval.Snapshot.Storage

/-!
# Snapshots are loaded as they were saved

## Main Definitions

* `Snapshot.Writable` — the files of a snapshot can be created in a directory
* `Snapshot.Holds` — the bytes that the three files of a directory hold

## Main Results

* `Snapshot.holds_save` — after saving, the files hold what was encoded
* `Snapshot.load_of_holds` — loading decodes the files one after the other
* `Snapshot.load_save` — what was saved is loaded, with anything behind it but with nothing cut off

## Design Notes

**The order of entries does not matter.**  A table keeps its entries in some order, and the
encoding follows that order.  The results hold for every index, so for every order that its
tables can have.

**Stores are compared by what they hold.**  Loading depends on three files, so damage to one of
them is described by what the files hold afterwards (`Holds`), and loading is computed from
that.
-/

namespace RankedRetrieval.Snapshot

open Codec

/-! ### The files of a snapshot -/

/-- The names of the files of a snapshot. -/
def fileNames : List String := ["docs.bin", "fields.bin", "meta.json"]

/-- Once a directory has been made, the files of a snapshot can be created in it. -/
def Writable (s : FileStore) (directory : String) : Prop :=
  ∀ name ∈ fileNames, (s.withDirectory (Location.ofPath directory)).target
    (FileStore.join directory name) = .ok (Location.ofPath directory ++ [name])

/-- The bytes that the three files of a directory hold. -/
structure Holds (s : FileStore) (directory : String) (documents fields metadata : List UInt8) :
    Prop where
  /-- The paths lead to the files. -/
  reached : ∀ name ∈ fileNames, s.target (FileStore.join directory name) =
    .ok (Location.ofPath directory ++ [name])
  /-- The file of the documents. -/
  documents : s.fileAt? (Location.ofPath directory ++ ["docs.bin"]) = some documents
  /-- The file of the fields. -/
  fields : s.fileAt? (Location.ofPath directory ++ ["fields.bin"]) = some fields
  /-- The file of the metadata. -/
  metadata : s.fileAt? (Location.ofPath directory ++ ["meta.json"]) = some metadata

variable {s : FileStore} {directory : String} {documents fields metadata : List UInt8}

theorem isName_of_mem_fileNames : ∀ name ∈ fileNames, Location.IsName name := by
  intro name member
  simp only [fileNames, List.mem_cons, List.not_mem_nil, or_false] at member
  rcases member with rfl | rfl | rfl <;> exact ⟨by decide, by decide, by decide, by decide⟩

theorem isDevice_eq_false (l : Location) {name : String} (member : name ∈ fileNames) :
    Location.isDevice (l ++ [name]) = false := by
  have no_device : name ≠ "null" ∧ name ≠ "full" := by
    simp only [fileNames, List.mem_cons, List.not_mem_nil, or_false] at member
    rcases member with rfl | rfl | rfl <;> decide
  have last (device : Location) (same : l ++ [name] = device) :
      device.getLast? = some name := by
    rw [← same, List.getLast?_append]
    rfl
  rw [Location.isDevice, Bool.or_eq_false_iff, decide_eq_false_iff_not, decide_eq_false_iff_not]
  constructor
  · intro same
    exact no_device.1 (Option.some.inj (last _ same)).symm
  · intro same
    exact no_device.2 (Option.some.inj (last _ same)).symm

theorem fileAt?_update (l : Location) {name : String} (member : name ∈ fileNames)
    (change : List UInt8 → List UInt8) (other : String) :
    (s.update (l ++ [name]) change).fileAt? (l ++ [other]) =
      if name = other then some (change ((s.fileAt? (l ++ [name])).getD []))
      else s.fileAt? (l ++ [other]) := by
  rw [FileStore.fileAt?_update (isDevice_eq_false l member)]
  simp

namespace Holds

/-- The bytes of a file are found at its path. -/
theorem bytes_eq (holds : Holds s directory documents fields metadata) {name : String}
    (member : name ∈ fileNames) {found : List UInt8}
    (here : s.fileAt? (Location.ofPath directory ++ [name]) = some found) :
    bytes s (FileStore.join directory name) = .ok found := by
  rw [bytes, FileStore.find_of_target (holds.reached name member), here]

/-- A change of the documents. -/
theorem change_documents (holds : Holds s directory documents fields metadata)
    (change : List UInt8 → List UInt8) :
    Holds (s.change (documentsPath directory) change) directory (change documents) fields
      metadata := by
  have there : "docs.bin" ∈ fileNames := by decide
  have made : s.change (documentsPath directory) change =
      s.update (Location.ofPath directory ++ ["docs.bin"]) change := by
    rw [FileStore.change, documentsPath, holds.reached _ there]
  rw [made]
  refine ⟨fun name member => FileStore.target_update _ (holds.reached name member), ?_, ?_, ?_⟩
  · rw [fileAt?_update _ there, if_pos rfl, holds.documents, Option.getD_some]
  · rw [fileAt?_update _ there, if_neg (by decide), holds.fields]
  · rw [fileAt?_update _ there, if_neg (by decide), holds.metadata]

/-- A change of the fields. -/
theorem change_fields (holds : Holds s directory documents fields metadata)
    (change : List UInt8 → List UInt8) :
    Holds (s.change (fieldsPath directory) change) directory documents (change fields)
      metadata := by
  have there : "fields.bin" ∈ fileNames := by decide
  have made : s.change (fieldsPath directory) change =
      s.update (Location.ofPath directory ++ ["fields.bin"]) change := by
    rw [FileStore.change, fieldsPath, holds.reached _ there]
  rw [made]
  refine ⟨fun name member => FileStore.target_update _ (holds.reached name member), ?_, ?_, ?_⟩
  · rw [fileAt?_update _ there, if_neg (by decide), holds.documents]
  · rw [fileAt?_update _ there, if_pos rfl, holds.fields, Option.getD_some]
  · rw [fileAt?_update _ there, if_neg (by decide), holds.metadata]

end Holds

/-! ### Saving -/

/-- Putting down a file of a snapshot makes the directory first. -/
theorem place_eq (s : FileStore) (directory : String) {name : String} (member : name ∈ fileNames)
    (bytes : List UInt8) :
    s.place (FileStore.join directory name) bytes =
      (s.withDirectory (Location.ofPath directory)).update (Location.ofPath directory ++ [name])
        fun _ => bytes := by
  rw [FileStore.place, Location.ofPath_join directory (isName_of_mem_fileNames name member),
    List.dropLast_concat]

/-- Saving makes the directory once and then changes three files in it. -/
theorem save_eq (s : FileStore) (directory : String) (index : Index) (createdAt : String) :
    save s directory index createdAt =
      (((s.withDirectory (Location.ofPath directory)).update
        (Location.ofPath directory ++ ["docs.bin"]) fun _ => documentBytes index).update
        (Location.ofPath directory ++ ["fields.bin"]) fun _ => fieldBytes index).update
        (Location.ofPath directory ++ ["meta.json"])
          fun _ => Text.encode (Snapshot.metadata index createdAt).text := by
  -- after the first file the directory is there
  have settled (t : FileStore) (l : Location) (change : List UInt8 → List UInt8) :
      (((t.withDirectory (Location.ofPath directory)).update l change).withDirectory
        (Location.ofPath directory)) =
          (t.withDirectory (Location.ofPath directory)).update l change := by
    refine FileStore.withDirectory_eq_self fun k member => ?_
    rw [FileStore.hasDirectory_update]
    exact FileStore.hasDirectory_withDirectory member
  rw [save, documentsPath, fieldsPath, metadataPath, place_eq _ _ (by decide),
    place_eq _ _ (by decide), place_eq _ _ (by decide), settled, settled]

/-- After saving, the files hold what was encoded. -/
theorem holds_save (index : Index) (createdAt : String) (writable : Writable s directory) :
    Holds (save s directory index createdAt) directory (documentBytes index) (fieldBytes index)
      (Text.encode (Snapshot.metadata index createdAt).text) := by
  have first : "docs.bin" ∈ fileNames := by decide
  have second : "fields.bin" ∈ fileNames := by decide
  have third : "meta.json" ∈ fileNames := by decide
  rw [save_eq]
  refine ⟨fun name member => ?_, ?_, ?_, ?_⟩
  · exact FileStore.target_update _ (FileStore.target_update _
      (FileStore.target_update _ (writable name member)))
  · rw [fileAt?_update _ third, if_neg (by decide), fileAt?_update _ second, if_neg (by decide),
      fileAt?_update _ first, if_pos rfl]
  · rw [fileAt?_update _ third, if_neg (by decide), fileAt?_update _ second, if_pos rfl]
  · rw [fileAt?_update _ third, if_pos rfl]

/-! ### Loading -/

variable {index : Index} {createdAt : String}

/-- Loading decodes the documents and the fields, one after the other. -/
theorem load_of_holds (few : index.numDocs ≤ Decimal.greatestWord)
    (holds : Holds s directory documents fields
      (Text.encode (Snapshot.metadata index createdAt).text)) :
    load s directory =
      (decode Layout.documents documents).bind fun (docs, ids) =>
        (decode Layout.fields fields).bind fun table =>
          if docs.length = index.numDocs then .ok ⟨docs.toArray, ids, table⟩
          else .error (.inconsistent directory index.numDocs docs.length) := by
  have known : (Snapshot.metadata index createdAt).version ≤ Decimal.greatestWord := by
    show version ≤ Decimal.greatestWord
    decide
  have parsed := Metadata.parse?_text (m := Snapshot.metadata index createdAt) few known
  have listed : loadMetadata s directory = .ok (Snapshot.metadata index createdAt) := by
    rw [loadMetadata, metadataPath, holds.bytes_eq (by decide) holds.metadata]
    simp only [bind, Except.bind, Text.decode?_encode, parsed]
    rfl
  rw [load, listed, documentsPath, holds.bytes_eq (by decide) holds.documents, fieldsPath,
    holds.bytes_eq (by decide) holds.fields]
  simp only [bind, Except.bind, Snapshot.metadata, ne_eq, not_true_eq_false, if_false]
  cases decode Layout.documents documents with
  | error e => rfl
  | ok parts =>
    dsimp only
    cases decode Layout.fields fields with
    | error e => rfl
    | ok table =>
      dsimp only
      by_cases same : parts.1.length = index.numDocs
      · simp only [same, not_true_eq_false, if_false, if_true]
        rfl
      · simp only [same, not_false_eq_true, if_false, if_true]
        rfl

theorem decode_append {β : Type} {codec : Codec β} {fits : β → Prop}
    (faithful : Faithful codec fits) {b : β} (fit : fits b) (more : List UInt8) :
    decode codec (codec.encode b ++ more) = .ok b := by
  rw [decode, faithful.decode?_encode b fit more]

theorem decode_truncated {β : Type} {codec : Codec β} {fits : β → Prop}
    (faithful : Faithful codec fits) {b : β} (fit : fits b) {cut : List UInt8}
    (shorter : cut <+: codec.encode b) (missing : cut ≠ codec.encode b) :
    decode codec cut = .error .malformedData := by
  rw [decode, faithful.decode?_truncated fit shorter missing]

/-- What was saved is loaded, also with more bytes behind the documents or the fields; but when
bytes of the documents or of the fields are cut off, nothing is loaded. -/
theorem load_save (storable : index.Storable) (few : index.numDocs < 2 ^ 32)
    (writable : Writable s directory) :
    load (save s directory index createdAt) directory = .ok index ∧
    (∀ moreDocuments moreFields, load (((save s directory index createdAt).append
      (documentsPath directory) moreDocuments).append (fieldsPath directory) moreFields)
        directory = .ok index) ∧
    (∀ cut, cut <+: documentBytes index → cut ≠ documentBytes index →
      load ((save s directory index createdAt).change (documentsPath directory) fun _ => cut)
        directory = .error .malformedData) ∧
    (∀ cut, cut <+: fieldBytes index → cut ≠ fieldBytes index →
      load ((save s directory index createdAt).change (fieldsPath directory) fun _ => cut)
        directory = .error .malformedData) := by
  have within : index.numDocs ≤ Decimal.greatestWord := by
    show index.numDocs ≤ 2 ^ 32 - 1
    omega
  have saved := holds_save index createdAt writable
  have documents_whole (more : List UInt8) :
      decode Layout.documents (documentBytes index ++ more) = .ok (index.docs.toList, index.ids) :=
    decode_append Layout.faithful_documents storable.documents more
  have fields_whole (more : List UInt8) :
      decode Layout.fields (fieldBytes index ++ more) = .ok index.fields :=
    decode_append Layout.faithful_fields storable.fields more
  have appended (moreDocuments moreFields : List UInt8) :
      load (((save s directory index createdAt).append (documentsPath directory)
        moreDocuments).append (fieldsPath directory) moreFields) directory = .ok index := by
    have held := (saved.change_documents fun earlier => earlier ++ moreDocuments).change_fields
      fun earlier => earlier ++ moreFields
    rw [FileStore.append, FileStore.append, load_of_holds within held, documents_whole,
      fields_whole]
    simp only [Except.bind]
    rw [if_pos (by simp [Index.numDocs])]
  refine ⟨?_, appended, ?_, ?_⟩
  · have documents := documents_whole []
    have fields := fields_whole []
    rw [List.append_nil] at documents fields
    rw [load_of_holds within saved, documents, fields]
    simp only [Except.bind]
    rw [if_pos (by simp [Index.numDocs])]
  · intro cut shorter missing
    rw [load_of_holds within (saved.change_documents fun _ => cut),
      decode_truncated Layout.faithful_documents storable.documents shorter missing]
    rfl
  · intro cut shorter missing
    have documents := documents_whole []
    rw [List.append_nil] at documents
    rw [load_of_holds within (saved.change_fields fun _ => cut), documents,
      decode_truncated Layout.faithful_fields storable.fields shorter missing]
    rfl

/-- An index over one document with a stop word and an attribute. -/
def oneDocument : Index where
  docs := #[⟨"GX000-00", ⟨[("score", "42")]⟩, ⟨[("body", ⟨["cat"], [none, some 0, some 0]⟩)]⟩⟩]
  ids := ⟨[("GX000-00", 0)]⟩
  fields := ⟨[("body", ⟨⟨[("cat", [⟨0, [1, 2]⟩])]⟩, 1, 3⟩)]⟩

theorem load_save_oneDocument :
    let saved := save FileStore.empty "index" oneDocument "2024-01-01T00:00:00Z"
    oneDocument.Storable ∧ oneDocument.numDocs < 2 ^ 32 ∧ Writable FileStore.empty "index" ∧
    load saved "index" = .ok oneDocument ∧
    load (saved.change (fieldsPath "index") fun _ => (fieldBytes oneDocument).dropLast) "index" =
      .error .malformedData := by
  have storable : oneDocument.Storable := ⟨by decide +kernel, by decide +kernel⟩
  have few : oneDocument.numDocs < 2 ^ 32 := by decide
  have writable : Writable FileStore.empty "index" := by
    unfold Writable
    decide +kernel
  obtain ⟨whole, -, -, cut⟩ :=
    @load_save _ _ oneDocument "2024-01-01T00:00:00Z" storable few writable
  exact ⟨storable, few, writable, whole,
    cut _ (List.dropLast_prefix _) (by decide +kernel)⟩

end RankedRetrieval.Snapshot
