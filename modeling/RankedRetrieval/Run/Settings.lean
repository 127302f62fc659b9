import RankedRetrieval.Decimal.Reading
import RankedRetrieval.Scalar
import RankedRetrieval.Table
import RankedRetrieval.Text.Blank
import RankedRetrieval.Text.Line

/-!
# Settings

Named values as they stand in a parameter file.

## Main Definitions

* `ParameterError` — what can be wrong with parameters
* `Settings` — values by name
* `Settings.parse` — the settings of a text

## Design Notes

A line assigns a value to a name with an equals sign; what follows the first one is the value.
Blank lines and lines that begin with a number sign are skipped, and of two lines for one name
the later one counts.
-/

namespace RankedRetrieval

/-- What can be wrong with parameters. -/
inductive ParameterError where
  /-- A line assigns no value. -/
  | noAssignment (line : Nat)
  /-- A value is missing. -/
  | missing (name : String)
  /-- A value is no number of its kind. -/
  | badValue (value name : String) (cause : NumeralError)
  /-- There is no such retrieval model. -/
  | unknownModel (name : String)
  /-- The weight of the query without expansion is no share. -/
  | weightOutOfRange (weight : String)
  /-- A feature has no number. -/
  | badFeature (text : String) (cause : NumeralError)
  /-- There is no feature with a number. -/
  | featureOutOfRange (number count : Nat)
  deriving DecidableEq

/-- The wording of an error. -/
def ParameterError.message : ParameterError → String
  | noAssignment line => "line " ++ Nat.repr line ++ ": expected key=value"
  | missing name => "missing required parameter " ++ name
  | badValue value name cause => "bad value '" ++ value ++ "' for " ++ name ++ ": " ++ cause.message
  | unknownModel name => "unknown retrieval model " ++ name
  | weightOutOfRange weight => "fbOrigWeight must be within [0, 1], got " ++ weight
  | badFeature text cause => "bad feature number '" ++ text ++ "': " ++ cause.message
  | featureOutOfRange number count =>
    "feature " ++ Nat.repr number ++ " out of range 1..=" ++ Nat.repr count

/-- Values by name. -/
abbrev Settings := Table String String

namespace Settings

/-- Whether a line assigns nothing: a blank line or a remark. -/
def isSkipped (line : List Char) : Bool :=
  line.isEmpty || line.head? = some '#'

/-- The settings of lines that are numbered from a number on. -/
def readLines (number : Nat) : List String → Except ParameterError (List (String × String))
  | [] => .ok []
  | line :: rest =>
    let trimmed := Text.trimChars line.toList
    if isSkipped trimmed then readLines (number + 1) rest
    else
      match Text.splitOnceChars? '=' trimmed with
      | none => .error (.noAssignment number)
      | some (name, value) =>
        (readLines (number + 1) rest).map fun entries =>
          (String.ofList (Text.trimChars name), String.ofList (Text.trimChars value)) :: entries

/-- The settings of a text. -/
def parse (text : String) : Except ParameterError Settings :=
  (readLines 1 (Text.lines text)).map Table.ofList

/-- A value that has to be there. -/
def required (s : Settings) (name : String) : Except ParameterError String :=
  match s.get? name with
  | some value => .ok value
  | none => .error (.missing name)

/-- A value that has to be there, read as a number. -/
def number {β : Type} (read : String → Except NumeralError β) (s : Settings) (name : String) :
    Except ParameterError β :=
  match s.required name with
  | .error e => .error e
  | .ok value =>
    match read value with
    | .ok n => .ok n
    | .error cause => .error (.badValue value name cause)

/-- A value read as a number, or a number that stands for a missing value. -/
def numberOr {β : Type} (read : String → Except NumeralError β) (default : β) (s : Settings)
    (name : String) : Except ParameterError β :=
  if (s.get? name).isSome then s.number read name else .ok default

/-- A number of things. -/
def size (s : Settings) (name : String) : Except ParameterError Nat :=
  s.number (Decimal.readNat Decimal.greatestSize) name

variable {α : Type} [Numeral α]

/-- A scalar. -/
def scalar (s : Settings) (name : String) : Except ParameterError α :=
  s.number Numeral.read name

/-- A scalar, or one that stands for a missing value. -/
def scalarOr (default : α) (s : Settings) (name : String) : Except ParameterError α :=
  numberOr Numeral.read default s name

end Settings

end RankedRetrieval
