import RankedRetrieval.Decimal.Digits
import RankedRetrieval.Number

/-!
# Reading numbers

Numerals in base 10 and the reasons why a text is not one.

## Main Definitions

* `NumeralError` — why a text is no numeral
* `Decimal.readNat` — a natural with an upper bound
* `Decimal.readInt` — an integer between two bounds
* `Decimal.readNumber` — a floating-point number

## Design Notes

The digits of a bounded integer are read from left to right, so a number that is too large is
reported even when something else than a digit comes later.  A floating-point number is the
number nearest to the decimal that is written.
-/

namespace RankedRetrieval

/-- Why a text is no numeral. -/
inductive NumeralError where
  /-- A floating-point number with no character. -/
  | emptyFloat
  /-- Characters that form no floating-point number. -/
  | invalidFloat
  /-- An integer with no character. -/
  | emptyInteger
  /-- A character that is no digit. -/
  | invalidDigit
  /-- An integer above its upper bound. -/
  | tooLarge
  /-- An integer below its lower bound. -/
  | tooSmall
  deriving DecidableEq

/-- The wording of a reason. -/
def NumeralError.message : NumeralError → String
  | .emptyFloat => "cannot parse float from empty string"
  | .invalidFloat => "invalid float literal"
  | .emptyInteger => "cannot parse integer from empty string"
  | .invalidDigit => "invalid digit found in string"
  | .tooLarge => "number too large to fit in target type"
  | .tooSmall => "number too small to fit in target type"

namespace Decimal

/-! ### Integers -/

/-- Reads digits after a value; `overflow` is the reason once the value passes `bound`. -/
def readDigits (bound : Nat) (overflow : NumeralError) : Nat → List Char → Except NumeralError Nat
  | n, [] => .ok n
  | n, c :: rest =>
    if isDigit c then
      if 10 * n + digitValue c ≤ bound then readDigits bound overflow (10 * n + digitValue c) rest
      else .error overflow
    else .error .invalidDigit

/-- Reads at least one digit. -/
def readSomeDigits (bound : Nat) (overflow : NumeralError) (ds : List Char) :
    Except NumeralError Nat :=
  if ds.isEmpty then .error .invalidDigit else readDigits bound overflow 0 ds

/-- Reads a natural up to `bound`; a plus sign may stand in front. -/
def readNat (bound : Nat) (text : String) : Except NumeralError Nat :=
  match text.toList with
  | [] => .error .emptyInteger
  | '+' :: ds => readSomeDigits bound .tooLarge ds
  | ds => readSomeDigits bound .tooLarge ds

/-- Reads an integer from `-(bound + 1)` to `bound`; a sign may stand in front. -/
def readInt (bound : Nat) (text : String) : Except NumeralError Int :=
  match text.toList with
  | [] => .error .emptyInteger
  | '+' :: ds => (readSomeDigits bound .tooLarge ds).map Int.ofNat
  | '-' :: ds => (readSomeDigits (bound + 1) .tooSmall ds).map fun n => -(n : Int)
  | ds => (readSomeDigits bound .tooLarge ds).map Int.ofNat

/-- The greatest natural of 32 bits. -/
def greatestWord : Nat := Nat.pow 2 32 - 1

/-- The greatest natural of 64 bits. -/
def greatestSize : Nat := Nat.pow 2 64 - 1

/-- The greatest signed integer of 32 bits. -/
def greatestSigned : Nat := Nat.pow 2 31 - 1

/-! ### Floating-point numbers -/

/-- A decimal: `mantissa * 10 ^ power` with a sign. -/
structure Literal where
  /-- Whether a minus sign stands in front. -/
  negative : Bool
  /-- The digits as one natural. -/
  mantissa : Nat
  /-- The power of ten that the mantissa counts. -/
  power : Int

/-- A text without the sign in front of it, and whether that was a minus sign. -/
def splitSign : List Char → Bool × List Char
  | '-' :: rest => (true, rest)
  | '+' :: rest => (false, rest)
  | cs => (false, cs)

/-- Reads the exponent after a mantissa: nothing, or `e`, a sign and at least one digit. -/
def readExponent? : List Char → Option Int
  | [] => some 0
  | e :: rest =>
    if e = 'e' ∨ e = 'E' then
      let (negative, ds) := splitSign rest
      if ds.isEmpty || !ds.all isDigit then none
      else some (if negative then -(value ds : Int) else value ds)
    else none

/-- Reads a decimal without its sign: digits with at most one point among them, and an
exponent. -/
def readLiteral? (negative : Bool) (cs : List Char) : Option Literal :=
  let whole := cs.takeWhile isDigit
  let (fraction, rest) :=
    match cs.dropWhile isDigit with
    | '.' :: rest => (rest.takeWhile isDigit, rest.dropWhile isDigit)
    | rest => ([], rest)
  if whole.isEmpty && fraction.isEmpty then none
  else
    (readExponent? rest).map fun exponent =>
      { negative, mantissa := value (whole ++ fraction), power := exponent - fraction.length }

/-- The number nearest to a decimal.  A decimal at least `10 ^ 310` is infinite and one below
`10 ^ -330` is zero, so only moderate powers are ever computed. -/
def Literal.toFloat (l : Literal) : Float :=
  let magnitude := ((digits l.mantissa).length : Int) + l.power
  if l.mantissa = 0 ∨ magnitude < -330 then Binary64.nearest l.negative 0 1
  else if 311 < magnitude then Binary64.infinity l.negative
  else
    Binary64.nearest l.negative (l.mantissa * Nat.pow 10 l.power.toNat)
      (Nat.pow 10 (-l.power).toNat)

/-- Reads a floating-point number: a decimal, an infinity or what is not a number, with an
optional sign; the words are known in either case. -/
def readNumber (text : String) : Except NumeralError Number :=
  match text.toList with
  | [] => .error .emptyFloat
  | cs =>
    let (negative, unsigned) := splitSign cs
    match String.ofList (unsigned.map Char.toLower) with
    | "inf" | "infinity" => .ok (.ofFloat (Binary64.infinity negative))
    | "nan" => .ok (.notANumber negative)
    | _ =>
      match readLiteral? negative unsigned with
      | some l => .ok (.ofFloat l.toFloat)
      | none => .error .invalidFloat

end Decimal

end RankedRetrieval
