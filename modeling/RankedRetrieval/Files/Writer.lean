import RankedRetrieval.Text.Line

/-!
# Buffered writers

Texts are handed to a writer piece by piece and reach the file when its buffer is emptied.

## Main Definitions

* `Writer` — a writer with its buffer
* `Writer.put`, `Writer.flush` — what a writer does to the bytes of its file
* `Writer.overlap` — the bytes of a file that two writers write to

## Design Notes

**One writer alone writes what it is given.**  The bytes of its file followed by its buffer are
the pieces in order (`Writer.put_append_pending`), so its buffer never shows.

**Two writers to one file write over each other.**  Each of them counts its own position from
the beginning of the file, so which bytes stay depends on when the buffers are emptied.
-/

namespace RankedRetrieval

/-- A writer with its buffer. -/
structure Writer where
  /-- Where the next bytes go. -/
  position : Nat
  /-- The bytes in the buffer. -/
  pending : List UInt8
  deriving DecidableEq

namespace Writer

/-- A writer at the beginning of a file. -/
def start : Writer := ⟨0, []⟩

/-- The number of bytes that a buffer holds. -/
def capacity : Nat := 8192

/-- The bytes of a file in which some bytes have been written at a position. -/
def overwrite (contents : List UInt8) (position : Nat) (bytes : List UInt8) : List UInt8 :=
  if bytes.isEmpty then contents
  else
    contents.take position ++ List.replicate (position - contents.length) 0 ++ bytes
      ++ contents.drop (position + bytes.length)

/-- Writes bytes around the buffer, which has to be empty. -/
def send (bytes : List UInt8) (w : Writer) (contents : List UInt8) : Writer × List UInt8 :=
  (⟨w.position + bytes.length, []⟩, overwrite contents w.position bytes)

/-- Empties the buffer. -/
def flush (w : Writer) (contents : List UInt8) : Writer × List UInt8 :=
  w.send w.pending contents

/-- Takes a piece into the buffer, which has room for it or is empty.  A piece that fills a
buffer is written at once. -/
def accept (piece : List UInt8) (w : Writer) (contents : List UInt8) : Writer × List UInt8 :=
  if capacity ≤ piece.length then w.send piece contents
  else (⟨w.position, w.pending ++ piece⟩, contents)

/-- Takes a piece.  The buffer is emptied first when it has no room for the piece. -/
def put (piece : List UInt8) (w : Writer) (contents : List UInt8) : Writer × List UInt8 :=
  if w.pending.length + piece.length ≤ capacity then w.accept piece contents
  else (w.flush contents).1.accept piece (w.flush contents).2

/-- Bytes that are written at the end of a file follow what stands there. -/
theorem overwrite_length (contents bytes : List UInt8) :
    overwrite contents contents.length bytes = contents ++ bytes := by
  unfold overwrite
  split
  · simp_all
  · simp

/-- A writer whose position is the end of its file hands a piece on to the file or to its
buffer, and nothing else changes. -/
theorem accept_append_pending (piece contents : List UInt8) (w : Writer)
    (atEnd : w.position = contents.length) (room : w.pending.length + piece.length ≤ capacity ∨
      w.pending = []) :
    (w.accept piece contents).2 ++ (w.accept piece contents).1.pending
        = contents ++ w.pending ++ piece
      ∧ (w.accept piece contents).1.position = (w.accept piece contents).2.length := by
  unfold accept send
  split
  · rename_i long
    have empty : w.pending = [] := by
      rcases room with room | empty
      · exact List.length_eq_zero_iff.1 (by omega)
      · exact empty
    simp [atEnd, overwrite_length, empty]
  · simp [atEnd]

/-- A writer whose position is the end of its file keeps it there, and the file followed by the
buffer grows by the piece. -/
theorem put_append_pending (piece contents : List UInt8) (w : Writer)
    (atEnd : w.position = contents.length) :
    (w.put piece contents).2 ++ (w.put piece contents).1.pending = contents ++ w.pending ++ piece
      ∧ (w.put piece contents).1.position = (w.put piece contents).2.length := by
  unfold put
  split
  · rename_i room
    exact accept_append_pending piece contents w atEnd (.inl room)
  · have flushed : (w.flush contents).2 = contents ++ w.pending := by
      simp [flush, send, atEnd, overwrite_length]
    have after : (w.flush contents).1.position = (w.flush contents).2.length := by
      simp [flush, send, atEnd, overwrite_length]
    have kept := accept_append_pending piece (w.flush contents).2 (w.flush contents).1 after
      (.inr rfl)
    exact ⟨by rw [kept.1, flushed]; simp [flush, send], kept.2⟩

/-! ### Two writers to one file -/

/-- One of two writers. -/
inductive Side where
  /-- The first writer. -/
  | first
  /-- The second writer. -/
  | second
  deriving DecidableEq

/-- What two writers and their file hold after the writers have taken some pieces. -/
def putAll (first second : Writer) (contents : List UInt8) :
    List (Side × String) → Writer × Writer × List UInt8
  | [] => (first, second, contents)
  | (.first, piece) :: rest =>
    let (after, written) := first.put (Text.encode piece) contents
    putAll after second written rest
  | (.second, piece) :: rest =>
    let (after, written) := second.put (Text.encode piece) contents
    putAll first after written rest

/-- The bytes of an empty file after two writers have written pieces to it and have been closed,
one of them last. -/
def overlap (pieces : List (Side × String)) (last : Side) : List UInt8 :=
  let (first, second, contents) := putAll start start [] pieces
  match last with
  | .first => (first.flush (second.flush contents).2).2
  | .second => (second.flush (first.flush contents).2).2

/-- The text that one of two writers is given. -/
def textOf (side : Side) (pieces : List (Side × String)) : String :=
  String.join ((pieces.filter fun piece => piece.1 = side).map Prod.snd)

theorem textOf_append (side : Side) (pieces more : List (Side × String)) :
    textOf side (pieces ++ more) = textOf side pieces ++ textOf side more := by
  rw [textOf, List.filter_append, List.map_append, String.join_append, textOf, textOf]

end Writer

end RankedRetrieval
