import RankedRetrieval.Decimal.Reading
import RankedRetrieval.Json.Reading

/-!
# Metadata of a snapshot

## Main Definitions

* `Metadata` — what a snapshot says of itself
* `Metadata.text` — the metadata as an object in JSON
* `Metadata.parse?` — the metadata that a text holds

## Design Notes

An object has to hold every known member once; members with other names are ignored.  An array
of the values in order is understood as well.
-/

namespace RankedRetrieval

/-- What a snapshot says of itself. -/
structure Metadata where
  /-- The number of documents. -/
  docs : Nat
  /-- The time at which it was written. -/
  createdAt : String
  /-- The version of its layout. -/
  version : Nat
  deriving DecidableEq

namespace Metadata

/-- The metadata as an object in JSON. -/
def text (m : Metadata) : String :=
  "\x7b\n  \"num_docs\": " ++ Nat.repr m.docs ++ ",\n  \"created_at\": " ++ Json.quote m.createdAt
    ++ ",\n  \"version\": " ++ Nat.repr m.version ++ "\n\x7d"

/-- The natural of 32 bits that a value is. -/
def word? : Json → Option Nat
  | .natural n => if n ≤ Decimal.greatestWord then some n else none
  | _ => none

/-- The text that a value is. -/
def text? : Json → Option String
  | .text s? => s?
  | _ => none

/-- The value of a member, if there is exactly one of that name. -/
def member? (members : List (Option String × Json)) (name : String) : Option Json :=
  match members.filter fun member => member.1 = some name with
  | [member] => some member.2
  | _ => none

/-- The metadata that a value holds. -/
def ofJson? : Json → Option Metadata
  | .array [docs, createdAt, version] => do
    return ⟨← word? docs, ← text? createdAt, ← word? version⟩
  | .object members =>
    if members.all fun member => member.1.isSome then do
      let docs ← member? members "num_docs" >>= word?
      let createdAt ← member? members "created_at" >>= text?
      let version ← member? members "version" >>= word?
      return ⟨docs, createdAt, version⟩
    else none
  | _ => none

/-- The metadata that a text holds. -/
def parse? (source : String) : Option Metadata :=
  Json.parse? source >>= ofJson?

end Metadata

end RankedRetrieval
