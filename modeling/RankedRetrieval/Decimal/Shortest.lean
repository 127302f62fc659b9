import RankedRetrieval.Binary64
import RankedRetrieval.Decimal.Digits

/-!
# The shortest decimal text of a number

A number is written with the fewest digits that read back as the same number.

## Main Definitions

* `Decimal.shortestGrid` — the multiple of a power of ten that is written
* `Decimal.shortest` — the text of a number

## Design Notes

A decimal with `k` digits lies on a grid of multiples of a power of ten.  For each number of
digits the two neighbours of the number on the grid are tried; the first grid with a
neighbour that reads back wins, of two neighbours the nearer one, and of two equally near ones
the greater.  The text is always positional, and no point is written after a whole number.
-/

namespace RankedRetrieval.Decimal

/-- The reals that read as one positive number: from `low` to `high`, in units of
`2 ^ exponent`, with `middle` the number itself.  The ends belong to it when `closed`. -/
structure Interval where
  /-- The lower end. -/
  low : Nat
  /-- The number. -/
  middle : Nat
  /-- The upper end. -/
  high : Nat
  /-- The exponent of the unit. -/
  exponent : Int
  /-- Whether the ends read as the number too. -/
  closed : Bool

/-- The reals that read as `significand * 2 ^ exponent`.  Below a power of two the numbers lie
twice as dense, so the lower end is nearer there. -/
def readingInterval (significand : Nat) (exponent : Int) : Interval where
  low :=
    if significand = Binary64.hiddenBit ∧ Binary64.leastExponent < exponent then
      4 * significand - 1
    else 4 * significand - 2
  middle := 4 * significand
  high := 4 * significand + 2
  exponent := exponent - 2
  closed := significand % 2 = 0

/-- `a * 2 ^ exponent` and `10 ^ power` as naturals over a common denominator. -/
def onCommonScale (exponent power : Int) : Nat × Nat :=
  (Nat.pow 2 exponent.toNat * Nat.pow 10 (-power).toNat,
    Nat.pow 2 (-exponent).toNat * Nat.pow 10 power.toNat)

/-- Whether a multiple of the grid lies in an interval; both are on one scale. -/
def Interval.holds (i : Interval) (unit step multiple : Nat) : Bool :=
  if i.closed then i.low * unit ≤ multiple * step && multiple * step ≤ i.high * unit
  else i.low * unit < multiple * step && multiple * step < i.high * unit

/-- The neighbour of an interval's middle on the grid of multiples of `10 ^ power` that lies in
the interval and is nearest to the middle. -/
def Interval.onGrid? (i : Interval) (power : Int) : Option Nat :=
  let (unit, step) := onCommonScale i.exponent power
  let below := i.middle * unit / step
  let above := below + 1
  match i.holds unit step below, i.holds unit step above with
  | true, true =>
    if 2 * (i.middle * unit) < (below + above) * step then some below else some above
  | true, false => some below
  | false, true => some above
  | false, false => none

/-- The power of ten next above a positive ratio: the ratio is less than it and at least a tenth
of it. -/
def powerAbove (numerator denominator : Nat) : Int :=
  if denominator ≤ numerator then ((digits (numerator / denominator)).length : Int)
  else
    let size := (digits (denominator / numerator)).length
    if denominator ≤ numerator * Nat.pow 10 (size - 1) then 2 - (size : Int) else 1 - (size : Int)

/-- The first grid, from the given number of digits on, with a neighbour that reads back.  The
first argument bounds the number of grids that are tried. -/
def firstGrid (i : Interval) (top : Int) : Nat → Nat → Nat × Int
  | 0, count => (i.middle, top - count)
  | fuel + 1, count =>
    match i.onGrid? (top - count) with
    | some multiple => (multiple, top - count)
    | none => firstGrid i top fuel (count + 1)

/-- The decimal that a positive number is written as: a multiple and the power of ten that it
is a multiple of.  Seventeen digits always suffice. -/
def shortestGrid (significand : Nat) (exponent : Int) : Nat × Int :=
  let top := powerAbove (significand * Nat.pow 2 exponent.toNat) (Nat.pow 2 (-exponent).toNat)
  firstGrid (readingInterval significand exponent) top 17 1

/-- The positional text of `multiple * 10 ^ power`, without zeros at the end of the places. -/
def positional (multiple : Nat) (power : Int) : List Char :=
  if 0 ≤ power then digits (multiple * Nat.pow 10 power.toNat)
  else
    let places := (-power).toNat
    let ds := padLeft (places + 1) (digits multiple)
    let whole := ds.take (ds.length - places)
    match dropTrailingZeros (ds.drop (ds.length - places)) with
    | [] => whole
    | fraction => whole ++ '.' :: fraction

/-- A text with the sign of a number in front. -/
def signed (negative : Bool) (text : List Char) : List Char :=
  if negative then '-' :: text else text

/-- The text of a number: the fewest digits that read back, positional, with a sign for the
negative zero too. -/
def shortest (x : Float) : String :=
  match Binary64.ofFloat x with
  | .nan => "NaN"
  | .infinite negative => if negative then "-inf" else "inf"
  | .finite negative 0 _ => String.ofList (signed negative ['0'])
  | .finite negative significand exponent =>
    let (multiple, power) := shortestGrid significand exponent
    String.ofList (signed negative (positional multiple power))

end RankedRetrieval.Decimal
