/-!
# Binary floating point of 64 bits

The numbers that scores are computed in, taken apart into sign, significand and exponent, and
the way back: the floating-point number nearest to a ratio.

## Main Definitions

* `Binary64` — what the 64 bits of a number mean
* `Binary64.ofFloat` — the meaning of a number
* `Binary64.nearest` — the number nearest to a ratio of naturals
* `Binary64.totalKey` — the place of a number in the total order of the format

## Design Notes

Everything here is exact arithmetic on naturals and integers over the bits of a number, so
that texts of numbers can be reasoned about without laws of the floating-point operations.
-/

namespace RankedRetrieval

/-- The meaning of 64 bits: a finite number is `significand * 2 ^ exponent` with a sign. -/
inductive Binary64 where
  /-- Not a number. -/
  | nan
  /-- An infinity with its sign. -/
  | infinite (negative : Bool)
  /-- A finite number, zero included. -/
  | finite (negative : Bool) (significand : Nat) (exponent : Int)
  deriving DecidableEq

namespace Binary64

/-- The exponent of the least positive number. -/
def leastExponent : Int := -1074

/-- The significand of a normal number is at least this and less than its double. -/
def hiddenBit : Nat := Nat.pow 2 52

/-- The exponent field of infinities and of what is not a number. -/
def topField : Nat := 2047

/-- The bit that holds the sign. -/
def signBit : Nat := Nat.pow 2 63

/-- The meaning of the bits of a number. -/
def ofBits (bits : Nat) : Binary64 :=
  let negative := signBit ≤ bits
  let field := bits / hiddenBit % (topField + 1)
  let fraction := bits % hiddenBit
  if field = topField then
    if fraction = 0 then .infinite negative else .nan
  else if field = 0 then .finite negative fraction leastExponent
  else .finite negative (hiddenBit + fraction) (leastExponent + (field - 1))

/-- The meaning of a number. -/
def ofFloat (x : Float) : Binary64 :=
  ofBits x.toBits.toNat

/-- The integer nearest to a ratio; a tie goes to the even neighbour. -/
def roundHalfEven (numerator denominator : Nat) : Nat :=
  let quotient := numerator / denominator
  let remainder := 2 * (numerator % denominator)
  if remainder < denominator then quotient
  else if denominator < remainder then quotient + 1
  else if quotient % 2 = 0 then quotient
  else quotient + 1

/-- A ratio over a power of two, again as a ratio. -/
def overPower (numerator denominator : Nat) (exponent : Int) : Nat × Nat :=
  if 0 ≤ exponent then (numerator, denominator * Nat.pow 2 exponent.toNat)
  else (numerator * Nat.pow 2 (-exponent).toNat, denominator)

/-- The exponent at which a positive ratio has a significand of 53 binary digits, or the least
exponent when the ratio is too small for that. -/
def exponentOf (numerator denominator : Nat) : Int :=
  let guess := max leastExponent ((numerator.log2 : Int) - denominator.log2 - 53)
  let (above, below) := overPower numerator denominator guess
  if above / below < 2 * hiddenBit then guess else guess + 1

/-- The bits, without a sign, of the number nearest to a ratio.  A significand that is rounded
up to a power of two carries into the exponent field by itself. -/
def nearestBits (numerator denominator : Nat) : Nat :=
  if numerator = 0 then 0
  else
    let exponent := exponentOf numerator denominator
    let (above, below) := overPower numerator denominator exponent
    let significand := roundHalfEven above below
    if significand < hiddenBit then significand
    else
      let bits := (exponent - leastExponent + 1).toNat * hiddenBit + (significand - hiddenBit)
      min bits (topField * hiddenBit)

/-- The number nearest to a ratio with a sign; a tie goes to the even significand and what
is too large becomes infinite. -/
def nearest (negative : Bool) (numerator denominator : Nat) : Float :=
  let bits := nearestBits numerator denominator
  Float.ofBits (UInt64.ofNat (if negative then signBit + bits else bits))

/-- An infinity with its sign. -/
def infinity (negative : Bool) : Float :=
  let bits := topField * hiddenBit
  Float.ofBits (UInt64.ofNat (if negative then signBit + bits else bits))

/-- What is not a number. -/
def notANumber : Float :=
  Float.ofBits (UInt64.ofNat (topField * hiddenBit + hiddenBit / 2))

/-- The place of a number in the total order of the format: negative numbers by falling
magnitude, then the positive ones, negative zero right before zero.  Bits that are no number
stand at the two ends. -/
def totalKey (x : Float) : Int :=
  let bits := x.toBits.toNat
  if bits < signBit then bits else (signBit : Int) - 1 - bits

end Binary64

end RankedRetrieval
