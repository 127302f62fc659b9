import RankedRetrieval.Files.Writer
import RankedRetrieval.Program.Host
import RankedRetrieval.Run.Error

/-!
# Actions on files

## Main Definitions

* `Action` — a computation that changes files and may end early
* `Action.input`, `Action.create`, `Action.write`, `Action.program` — the steps of a run
* `Action.writeBoth` — writing to two files that may be one
* `Step.collect` — what a run writes for its queries, up to the first error

## Design Notes

What has been written before an action ends early stays written.
-/

namespace RankedRetrieval

/-- A computation that changes files and may end early. -/
abbrev Action (β : Type) := ExceptT RunError (StateM FileStore) β

namespace Action

variable {β : Type}

/-- Reads something from the files, which stay as they are. -/
def input (read : FileStore → Except RunError β) : Action β := fun s => (read s, s)

/-- Creates an empty file. -/
def create (path : String) : Action Unit := fun s =>
  match s.create path with
  | .ok t => (.ok (), t)
  | .error reason => (.error (.cannotCreate path reason), s)

/-- Writes a text to a file that has been created. -/
def write (path text : String) : Action Unit := fun s => (.ok (), s.writeText path text)

/-- Writes pieces to two files that have been created; one of their writers is closed last.
Unless the two files are one, each of them holds its pieces in order. -/
def writeBoth (first second : String) (pieces : List (Writer.Side × String))
    (last : Writer.Side) : Action Unit := fun s =>
  if s.sameFile first second then (.ok (), s.write first (Writer.overlap pieces last))
  else
    (.ok (), (s.writeText first (Writer.textOf .first pieces)).writeText second
      (Writer.textOf .second pieces))

/-- Asks whether a text that has been written to a file could be kept. -/
def close (path text : String) : Action Unit := fun s =>
  if s.isFull path && !text.isEmpty then (.error (.cannotWrite .noSpace), s) else (.ok (), s)

/-- Ends early when there is an error. -/
def stop : Option QueryError → Action Unit
  | none => pure ()
  | some e => throw (.query e)

/-- Runs a program, which has to succeed. -/
def program (host : Host) (path : String) (arguments : List String) : Action Unit := fun s =>
  let (ending, t) := host path arguments s
  match ending.failure? path with
  | none => (.ok (), t)
  | some cause => (.error (.query (.ranker cause)), t)

end Action

/-! ### Steps -/

/-- What is written for one query, and the error that ends the run there, if one does. -/
structure Step (γ : Type) where
  /-- What is written. -/
  written : γ
  /-- The error. -/
  stop? : Option QueryError

namespace Step

variable {β γ : Type}

/-- What is written for some queries one after the other, up to the first error. -/
def collect (step : β → Step γ) : List β → List γ × Option QueryError
  | [] => ([], none)
  | b :: rest =>
    match (step b).stop? with
    | some e => ([(step b).written], some e)
    | none =>
      let (others, stop?) := collect step rest
      ((step b).written :: others, stop?)

/-- The step of a computation that writes nothing when it fails. -/
def ofExcept (nothing : γ) : Except QueryError γ → Step γ
  | .ok written => ⟨written, none⟩
  | .error e => ⟨nothing, some e⟩

end Step

end RankedRetrieval
