import RankedRetrieval.Files.Error
import RankedRetrieval.Files.Store
import RankedRetrieval.Snapshot.Layout
import RankedRetrieval.Snapshot.Metadata

/-!
# Snapshots in a file store

An index is kept in three files of a directory: its documents, its fields and its metadata.

## Main Definitions

* `SnapshotError` — why a directory holds no usable index
* `Snapshot.save` — a store with the snapshot of an index
* `Snapshot.load` — the index of a snapshot

## Design Notes

The metadata is read first, and the data only when its layout is the known one.  The number of
documents in the metadata is compared with the documents last.
-/

namespace RankedRetrieval

/-- Why a directory holds no usable index. -/
inductive SnapshotError where
  /-- A file cannot be opened. -/
  | cannotRead (path : String) (reason : FileError)
  /-- A file that has been opened cannot be read. -/
  | unreadable (reason : FileError)
  /-- The metadata is no text. -/
  | undecodableMetadata
  /-- The metadata is not of its form. -/
  | malformedMetadata
  /-- The bytes of the documents or of the fields are not of their layout. -/
  | malformedData
  /-- The layout is not the known one. -/
  | unsupportedVersion (version : Nat) (directory : String)
  /-- The metadata lists another number of documents. -/
  | inconsistent (directory : String) (listed found : Nat)
  deriving DecidableEq

/-- The wording of an error. -/
def SnapshotError.message : SnapshotError → String
  | cannotRead path reason => "can't read " ++ path ++ ": " ++ reason.message
  | unreadable reason => reason.message
  | undecodableMetadata => "metadata is not valid UTF-8"
  | malformedMetadata => "metadata is malformed"
  | malformedData => "index data is malformed"
  | unsupportedVersion version directory =>
    "unsupported index format version " ++ Nat.repr version ++ " in " ++ directory
  | inconsistent directory listed found =>
    "index at " ++ directory ++ " is inconsistent: meta lists " ++ Nat.repr listed
      ++ " docs, found " ++ Nat.repr found

namespace Snapshot

/-- The version of the layout. -/
def version : Nat := 1

/-- The file of the documents. -/
def documentsPath (directory : String) : String := FileStore.join directory "docs.bin"

/-- The file of the fields. -/
def fieldsPath (directory : String) : String := FileStore.join directory "fields.bin"

/-- The file of the metadata. -/
def metadataPath (directory : String) : String := FileStore.join directory "meta.json"

/-! ### Saving -/

/-- The bytes of the documents of an index. -/
def documentBytes (index : Index) : List UInt8 :=
  Layout.documents.encode (index.docs.toList, index.ids)

/-- The bytes of the fields of an index. -/
def fieldBytes (index : Index) : List UInt8 :=
  Layout.fields.encode index.fields

/-- The metadata of an index. -/
def metadata (index : Index) (createdAt : String) : Metadata :=
  ⟨index.numDocs, createdAt, version⟩

/-- A store with the snapshot of an index in a directory. -/
def save (s : FileStore) (directory : String) (index : Index) (createdAt : String) : FileStore :=
  ((s.place (documentsPath directory) (documentBytes index)).place
    (fieldsPath directory) (fieldBytes index)).place
      (metadataPath directory) (Text.encode (metadata index createdAt).text)

/-! ### Loading -/

/-- The bytes of a file. -/
def bytes (s : FileStore) (path : String) : Except SnapshotError (List UInt8) :=
  match s.find path with
  | .error reason => .error (.cannotRead path reason)
  | .ok .directory => .error (.unreadable .isDirectory)
  | .ok (.file bs) => .ok bs

/-- The value at the front of some bytes. -/
def decode {β : Type} (codec : Codec β) (bs : List UInt8) : Except SnapshotError β :=
  match codec.decode? bs with
  | some (b, _) => .ok b
  | none => .error .malformedData

/-- The metadata in a directory. -/
def loadMetadata (s : FileStore) (directory : String) : Except SnapshotError Metadata := do
  let bs ← bytes s (metadataPath directory)
  match Text.decode? bs with
  | none => throw .undecodableMetadata
  | some source =>
    match Metadata.parse? source with
    | none => throw .malformedMetadata
    | some m => return m

/-- The index in a directory. -/
def load (s : FileStore) (directory : String) : Except SnapshotError Index := do
  let m ← loadMetadata s directory
  if m.version ≠ version then throw (.unsupportedVersion m.version directory)
  let (docs, ids) ← bytes s (documentsPath directory) >>= decode Layout.documents
  let fields ← bytes s (fieldsPath directory) >>= decode Layout.fields
  if docs.length ≠ m.docs then throw (.inconsistent directory m.docs docs.length)
  return ⟨docs.toArray, ids, fields⟩

end Snapshot

end RankedRetrieval
