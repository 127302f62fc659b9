import RankedRetrieval.Decimal.Fixed
import RankedRetrieval.Decimal.Reading

/-!
# Scalars

The numbers that weights, parameters and scores are: what is computed with them, how they are
ordered, and how they are written and read.

## Main Definitions

* `Scalar` — the arithmetic of scores
* `Numeral` — scalars as text
* `Scalar.sum`, `Scalar.total`, `Scalar.product` — sums and products in order

## Design Notes

**Scores are generic.**  All formulas are stated over a type with the operations of `Scalar`,
so that they can be run on floating-point numbers and reasoned about in exact arithmetic.

**A sum starts at `emptySum`.**  For floating-point numbers this is negative zero, the number
that changes nothing when it is added.  `total` starts at zero instead.
-/

namespace RankedRetrieval

/-- The arithmetic of scores. -/
class Scalar (α : Type) extends Add α, Sub α, Mul α, Div α, NatCast α, OfScientific α where
  /-- The sum of no numbers. -/
  emptySum : α
  /-- The natural logarithm. -/
  ln : α → α
  /-- The power of a base to an exponent. -/
  pow : α → α → α
  /-- Whether a number is less than another. -/
  less : α → α → Bool
  /-- Whether a number is at most another. -/
  atMost : α → α → Bool
  /-- The greater of two numbers. -/
  greater : α → α → α
  /-- The lesser of two numbers. -/
  lesser : α → α → α
  /-- The greatest finite number. -/
  greatest : α
  /-- Whether a number is at most another in the total order that rankings use. -/
  ranksBelow : α → α → Bool

/-- Scalars as text. -/
class Numeral (α : Type) where
  /-- The text of a number. -/
  text : α → String
  /-- The text of a number with fixed places after the point. -/
  fixed : Nat → α → String
  /-- Reads a number. -/
  read : String → Except NumeralError α

namespace Scalar

variable {α : Type} [Scalar α]

/-- A count as a number. -/
def ofNat (n : Nat) : α := (n : α)

/-- The sum of numbers, from left to right. -/
def sum (xs : List α) : α :=
  xs.foldl (· + ·) emptySum

/-- Numbers added to zero, from left to right. -/
def total (xs : List α) : α :=
  xs.foldl (· + ·) (ofNat 0)

/-- The product of numbers, from left to right. -/
def product (xs : List α) : α :=
  xs.foldl (· * ·) (ofNat 1)

@[simp]
theorem sum_nil : sum ([] : List α) = emptySum := rfl

@[simp]
theorem total_nil : total ([] : List α) = ofNat 0 := rfl

@[simp]
theorem product_nil : product ([] : List α) = ofNat 1 := rfl

end Scalar

/-! ### Floating-point numbers -/

instance numberScalar : Scalar Number where
  emptySum := .ofFloat (-0.0)
  ln := Number.ln
  pow := Number.pow
  less x y := x.value < y.value
  atMost x y := x.value ≤ y.value
  greater := Number.greater
  lesser := Number.lesser
  greatest := .ofFloat (Binary64.nearest false ((Nat.pow 2 53 - 1) * Nat.pow 2 971) 1)
  ranksBelow x y := x.totalKey ≤ y.totalKey

instance numberNumeral : Numeral Number where
  text x := Decimal.shortest x.value
  fixed places x := Decimal.fixed places x.value
  read := Decimal.readNumber

end RankedRetrieval
