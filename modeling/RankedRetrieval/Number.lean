import RankedRetrieval.Binary64

/-!
# Numbers

Floating-point numbers of 64 bits, with the sign that is kept by what is not a number.

## Main Definitions

* `Number` — a floating-point number
* `Number.result` — the outcome of an operation on two numbers
* `Number.totalKey` — the place of a number in the total order

## Design Notes

**What is not a number has a sign.**  It is never written, yet the total order puts one kind
before all numbers and the other one behind them.  `Float` has only one such value, so the sign
stands beside it.

**Operations hand the sign on.**  The first operand that is not a number gives its sign to the
outcome.  An operation on numbers that has no outcome, such as zero over zero, gives the
negative kind.
-/

namespace RankedRetrieval

/-- A floating-point number of 64 bits. -/
structure Number where
  /-- The number. -/
  value : Float
  /-- Whether a minus sign goes with what is not a number. -/
  negative : Bool

namespace Number

/-- A number that needs no sign of its own. -/
def ofFloat (x : Float) : Number := ⟨x, false⟩

/-- What is not a number, with its sign. -/
def notANumber (negative : Bool) : Number := ⟨Binary64.notANumber, negative⟩

/-- Whether it is not a number. -/
def isNaN (x : Number) : Bool := x.value.isNaN

/-- The outcome of an operation on two numbers. -/
def result (x y : Number) (value : Float) : Number :=
  ⟨value, value.isNaN && if x.isNaN then x.negative else if y.isNaN then y.negative else true⟩

@[simp]
theorem value_result (x y : Number) (value : Float) : (result x y value).value = value := rfl

instance numberAdd : Add Number := ⟨fun x y => result x y (x.value + y.value)⟩

instance numberSub : Sub Number := ⟨fun x y => result x y (x.value - y.value)⟩

instance numberMul : Mul Number := ⟨fun x y => result x y (x.value * y.value)⟩

instance numberDiv : Div Number := ⟨fun x y => result x y (x.value / y.value)⟩

instance numberNatCast : NatCast Number := ⟨fun n => ofFloat (Float.ofNat n)⟩

instance numberOfScientific : OfScientific Number :=
  ⟨fun mantissa small exponent => ofFloat (OfScientific.ofScientific mantissa small exponent)⟩

@[simp]
theorem value_add (x y : Number) : (x + y).value = x.value + y.value := rfl

@[simp]
theorem value_sub (x y : Number) : (x - y).value = x.value - y.value := rfl

@[simp]
theorem value_mul (x y : Number) : (x * y).value = x.value * y.value := rfl

@[simp]
theorem value_div (x y : Number) : (x / y).value = x.value / y.value := rfl

/-- The natural logarithm. -/
def ln (x : Number) : Number := result x x x.value.log

/-- The power of a base to an exponent. -/
def pow (x y : Number) : Number := result x y (x.value.pow y.value)

/-- The greater of two numbers; what is not a number gives way. -/
def greater (x y : Number) : Number :=
  if x.isNaN then y else if y.isNaN then x else if x.value < y.value then y else x

/-- The lesser of two numbers; what is not a number gives way. -/
def lesser (x y : Number) : Number :=
  if x.isNaN then y else if y.isNaN then x else if y.value < x.value then y else x

/-- The place of a number in the total order: what is not a number stands before all numbers
when it is negative and behind them otherwise. -/
def totalKey (x : Number) : Int :=
  let key := Binary64.totalKey x.value
  if x.isNaN && x.negative then -1 - key else key

end Number

end RankedRetrieval
