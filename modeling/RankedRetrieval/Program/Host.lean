import RankedRetrieval.Files.Store
import RankedRetrieval.Program.Signal

/-!
# Programs

Programs that are run next to this one, and what becomes of the files.

## Main Definitions

* `Host` — what every program does to the files
* `ProgramEnd` — how a program ends
* `StartFailure` — why a program cannot be started

## Design Notes

A run is stated for every host, so that nothing is assumed of a program but that it ends.  What
a program prints is of no concern.
-/

namespace RankedRetrieval

/-- Why a program cannot be started. -/
inductive StartFailure where
  /-- The file, or a directory on the way to it, does not exist. -/
  | missing
  /-- A file stands where a directory has to be. -/
  | notDirectory
  /-- The file is no program. -/
  | notPermitted
  /-- The program has an unknown form. -/
  | unknownForm
  /-- A name on the way to the file, or the path as a whole, is too long. -/
  | nameTooLong
  /-- The program is to be read by a program that is itself to be read, and so on. -/
  | tooDeep
  /-- The path or an argument holds the character that ends them. -/
  | unusableText
  deriving DecidableEq

namespace StartFailure

/-- The wording of a reason. -/
def message : StartFailure → String
  | missing => "No such file or directory (os error 2)"
  | notDirectory => "Not a directory (os error 20)"
  | notPermitted => "Permission denied (os error 13)"
  | unknownForm => "Exec format error (os error 8)"
  | nameTooLong => "File name too long (os error 36)"
  | tooDeep => "Too many levels of symbolic links (os error 40)"
  | unusableText => "nul byte found in provided data"

/-- Why a program whose file cannot be read cannot be started. -/
def ofFileError : FileError → StartFailure
  | .notDirectory => notDirectory
  | .isDirectory => notPermitted
  | .nameTooLong => nameTooLong
  | .unusablePath => unusableText
  | _ => missing

end StartFailure

/-- How a program ends. -/
inductive ProgramEnd where
  /-- It was never started. -/
  | notStarted (reason : StartFailure)
  /-- It came to its end with a status; zero is success. -/
  | exited (status : Nat)
  /-- It was ended by a signal. -/
  | signalled (signal : Nat)
  deriving DecidableEq

/-- What happens to the files when a program is run with arguments. -/
abbrev Host := String → List String → FileStore → ProgramEnd × FileStore

/-- Whether a text holds the character that ends paths and arguments. -/
def holdsNull (text : String) : Bool :=
  text.toList.contains '\x00'

/-- How a program is named in messages. -/
def programName (program : String) : String :=
  if holdsNull program then "<string-with-nul>" else program

/-- What went wrong with a program, if anything did. -/
def ProgramEnd.failure? (program : String) : ProgramEnd → Option String
  | notStarted reason => some (programName program ++ ": " ++ reason.message)
  | exited 0 => none
  | exited (n + 1) =>
    some (programName program ++ " exited with exit status: " ++ Nat.repr (n + 1))
  | signalled signal =>
    some (programName program ++ " exited with signal: " ++ Signal.message signal)

end RankedRetrieval
