import RankedRetrieval.Table
import RankedRetrieval.Text.Line

/-!
# Codecs

How values are laid out as bytes, one after the other.

## Main Definitions

* `Codec` — the bytes of a value and the way back
* `Codec.natural`, `Codec.text` — numbers of fixed width and texts
* `Codec.option`, `Codec.list`, `Codec.pair`, `Codec.table` — compound values

## Design Notes

Numbers are little-endian.  Texts, lists and tables begin with their length in eight bytes, and
an optional value with one byte that says whether it is there.  Reading takes a value from the
front and leaves the rest, so what follows a value never matters to it.
-/

namespace RankedRetrieval

/-- The bytes of a value and the way back. -/
structure Codec (β : Type) where
  /-- The bytes of a value. -/
  encode : β → List UInt8
  /-- The value at the front of some bytes, and the bytes after it. -/
  decode? : List UInt8 → Option (β × List UInt8)

namespace Codec

variable {β γ : Type}

/-! ### Numbers and texts -/

/-- The bytes of a number, the least significant one first; what exceeds the width is lost. -/
def littleEndian : Nat → Nat → List UInt8
  | 0, _ => []
  | width + 1, n => UInt8.ofNat (n % 256) :: littleEndian width (n / 256)

/-- The number of the first bytes, the least significant one first. -/
def readLittleEndian? : Nat → List UInt8 → Option (Nat × List UInt8)
  | 0, bytes => some (0, bytes)
  | _ + 1, [] => none
  | width + 1, b :: bytes =>
    (readLittleEndian? width bytes).map fun (n, rest) => (b.toNat + 256 * n, rest)

/-- Numbers of a fixed width. -/
def natural (width : Nat) : Codec Nat where
  encode := littleEndian width
  decode? := readLittleEndian? width

/-- The width of identifiers and positions. -/
def word : Codec Nat := natural 4

/-- The width of lengths and sums. -/
def size : Codec Nat := natural 8

/-- A number of bytes from the front, and the bytes after them. -/
def takeBytes? : Nat → List UInt8 → Option (List UInt8 × List UInt8)
  | 0, bytes => some ([], bytes)
  | _ + 1, [] => none
  | n + 1, b :: bytes => (takeBytes? n bytes).map fun (taken, rest) => (b :: taken, rest)

/-- The text of so many bytes, and the bytes after it. -/
def readText? (length : Nat) (bytes : List UInt8) : Option (String × List UInt8) :=
  match takeBytes? length bytes with
  | none => none
  | some (taken, rest) => (Text.decode? taken).map fun text => (text, rest)

/-- Texts. -/
def text : Codec String where
  encode s := size.encode (Text.encode s).length ++ Text.encode s
  decode? bytes := (size.decode? bytes).bind fun (length, rest) => readText? length rest

/-! ### Compound values -/

/-- Two values. -/
def pair (first : Codec β) (second : Codec γ) : Codec (β × γ) where
  encode p := first.encode p.1 ++ second.encode p.2
  decode? bytes :=
    (first.decode? bytes).bind fun (b, rest) =>
      (second.decode? rest).map fun (c, after) => ((b, c), after)

/-- Values that are made of others. -/
def via (make : γ → β) (parts : β → γ) (inner : Codec γ) : Codec β where
  encode b := inner.encode (parts b)
  decode? bytes := (inner.decode? bytes).map fun (c, rest) => (make c, rest)

/-- The bytes of an optional value. -/
def encodeOption (inner : Codec β) : Option β → List UInt8
  | none => [0]
  | some b => 1 :: inner.encode b

/-- The optional value at the front of some bytes. -/
def decodeOption? (inner : Codec β) : List UInt8 → Option (Option β × List UInt8)
  | [] => none
  | tag :: bytes =>
    if tag = 0 then some (none, bytes)
    else if tag = 1 then (inner.decode? bytes).map fun (b, rest) => (some b, rest)
    else none

/-- Optional values. -/
def option (inner : Codec β) : Codec (Option β) where
  encode := encodeOption inner
  decode? := decodeOption? inner

/-- So many values from the front, and the bytes after them. -/
def readMany? (inner : Codec β) : Nat → List UInt8 → Option (List β × List UInt8)
  | 0, bytes => some ([], bytes)
  | n + 1, bytes =>
    match inner.decode? bytes with
    | none => none
    | some (b, rest) => (readMany? inner n rest).map fun (bs, after) => (b :: bs, after)

/-- Lists. -/
def list (inner : Codec β) : Codec (List β) where
  encode bs := size.encode bs.length ++ bs.flatMap inner.encode
  decode? bytes := (size.decode? bytes).bind fun (length, rest) => readMany? inner length rest

/-- Tables; of two entries with one key the later one counts. -/
def table [DecidableEq β] (key : Codec β) (value : Codec γ) : Codec (Table β γ) :=
  via Table.ofList Table.entries (list (pair key value))

end Codec

end RankedRetrieval
