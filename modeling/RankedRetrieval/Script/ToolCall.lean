import RankedRetrieval.Files.Store
import RankedRetrieval.Script.Condition

/-!
# Tool calls

What the tools that scripts call are given, and what becomes of it.

## Main Definitions

* `Script.ToolCall` — a call of a tool
* `Script.Outcome` — what a tool yields
* `Script.ToolCall.options?` — the options and the other arguments of a call
-/

namespace RankedRetrieval.Script

/-- A call of a tool. -/
structure ToolCall where
  /-- The arguments. -/
  arguments : List String
  /-- What is left to read. -/
  input : List UInt8
  /-- The file that the output goes to, if it goes to one. -/
  target? : Option Location
  /-- The files. -/
  store : FileStore

/-- What a tool yields. -/
structure Outcome where
  /-- Its status; zero is success. -/
  status : Nat
  /-- What it writes. -/
  output : List UInt8
  /-- The files after it. -/
  store : FileStore
  /-- How many bytes of its input it has read. -/
  consumed : Nat

/-- What a tool yields when its output goes to a file instead, with a status for failing. -/
def Outcome.into (o : Outcome) (failure : Nat) (path : String) : Outcome :=
  match o.store.create path with
  | .error _ => { o with status := failure, output := [] }
  | .ok store => { o with output := [], store := store.append path o.output }

namespace ToolCall

/-- A tool that only has a status. -/
def ends (t : ToolCall) (status : Nat) : Outcome := ⟨status, [], t.store, 0⟩

/-- A tool that only writes. -/
def writes (t : ToolCall) (output : List UInt8) : Outcome := ⟨0, output, t.store, 0⟩

/-- A tool that only changes the files. -/
def changes (_ : ToolCall) (store : FileStore) (status : Nat) : Outcome :=
  ⟨status, [], store, 0⟩

/-! ### Options -/

/-- An option and its value, which is empty for one that takes none. -/
abbrev ToolOption := Char × String

/-- The options of the letters behind a hyphen, and the last one if its value follows.  There are
none when a letter is unknown. -/
def cluster? (plain valued : List Char) : List Char → Option (List ToolOption × Option Char)
  | [] => some ([], none)
  | c :: rest =>
    if valued.contains c then
      if rest.isEmpty then some ([], some c) else some ([(c, String.ofList rest)], none)
    else if plain.contains c then
      (cluster? plain valued rest).map fun (options, pending?) => ((c, "") :: options, pending?)
    else none

/-- The options and the other arguments among some arguments.  The option whose value comes next
stands in front. -/
def splitOptions? (plain valued : List Char) :
    Option Char → List String → Option (List ToolOption × List String)
  | none, [] => some ([], [])
  | some _, [] => none
  | some c, value :: rest =>
    (splitOptions? plain valued none rest).map fun (options, others) =>
      ((c, value) :: options, others)
  | none, argument :: rest =>
    if argument = "--" then some ([], rest)
    else
      match argument.toList with
      | '-' :: c :: letters =>
        (cluster? plain valued (c :: letters)).bind fun (options, pending?) =>
          (splitOptions? plain valued pending? rest).map fun (others, left) =>
            (options ++ others, left)
      | _ =>
        (splitOptions? plain valued none rest).map fun (options, others) =>
          (options, argument :: others)

/-- The options and the other arguments of a call.  There are none when an option is unknown or
lacks its value. -/
def options? (t : ToolCall) (plain valued : String) : Option (List ToolOption × List String) :=
  splitOptions? plain.toList valued.toList none t.arguments

/-- Whether an option has been given. -/
def has (options : List ToolOption) (c : Char) : Bool :=
  options.any fun option => option.1 = c

/-- The value of an option, the last one if there are several. -/
def valueOf? (options : List ToolOption) (c : Char) : Option String :=
  ((options.filter fun option => option.1 = c).getLast?).map Prod.snd

/-! ### Sources -/

/-- What a tool reads: the bytes of the files at some paths, or its input when there is none.  A
path that is a hyphen denotes the input as well.  Each file comes with its path. -/
def sources (t : ToolCall) (paths : List String) : List (String × List UInt8) :=
  if paths.isEmpty then [("-", t.input)]
  else
    paths.filterMap fun path =>
      if path = "-" then some (path, t.input)
      else (t.store.read path).toOption.map fun bytes => (path, bytes)

/-- Whether one of the files at some paths cannot be read. -/
def lacks (t : ToolCall) (paths : List String) : Bool :=
  paths.any fun path => path ≠ "-" && (t.store.read path).toOption.isNone

/-- Whether the input is read when some paths are. -/
def readsInput (paths : List String) : Bool :=
  paths.isEmpty || paths.contains "-"

/-- How many bytes of the input are read when some paths are. -/
def consumption (t : ToolCall) (paths : List String) : Nat :=
  if readsInput paths then t.input.length else 0

/-- A tool that writes what it makes of the files at some paths, or of its input. -/
def filters (t : ToolCall) (failure : Nat) (paths : List String) (make : List UInt8 → List UInt8) :
    Outcome where
  status := if t.lacks paths then failure else 0
  output := make ((t.sources paths).flatMap Prod.snd)
  store := t.store
  consumed := t.consumption paths

end ToolCall

/-! ### Rows -/

/-- The rows of a text after the bytes of a row that has begun, the last one first. -/
def rowsAfter (row : List UInt8) : List UInt8 → List (List UInt8)
  | [] => if row.isEmpty then [] else [row.reverse]
  | b :: rest => if b = 10 then row.reverse :: rowsAfter [] rest else rowsAfter (b :: row) rest

/-- The rows of a text, without their endings. -/
def rows (bytes : List UInt8) : List (List UInt8) := rowsAfter [] bytes

/-- Rows with their endings. -/
def unrows (rows : List (List UInt8)) : List UInt8 := rows.flatMap (· ++ [10])

/-- The rows of a text with their endings, after the bytes of a row that has begun, the last one
first.  The last row may lack its ending. -/
def endedRowsAfter (row : List UInt8) : List UInt8 → List (List UInt8)
  | [] => if row.isEmpty then [] else [row.reverse]
  | b :: rest =>
    if b = 10 then (b :: row).reverse :: endedRowsAfter [] rest else endedRowsAfter (b :: row) rest

/-- The rows of a text with their endings. -/
def endedRows (bytes : List UInt8) : List (List UInt8) := endedRowsAfter [] bytes

/-- The text that bytes encode; bytes that encode none stand for the characters of their
numbers. -/
def textOf (bytes : List UInt8) : String :=
  (Text.decode? bytes).getD (String.ofList (bytes.map fun b => Char.ofNat b.toNat))

end RankedRetrieval.Script
