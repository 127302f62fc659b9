/-!
# Decimal digits

Digit strings in base 10 and the naturals they stand for.

## Main Definitions

* `Decimal.digits` — the digits of a natural, without leading zeros
* `Decimal.value` — the natural that a digit string stands for
-/

namespace RankedRetrieval.Decimal

/-- Whether a character is a digit from `0` to `9`. -/
def isDigit (c : Char) : Bool :=
  '0' ≤ c && c ≤ '9'

/-- The value of a digit. -/
def digitValue (c : Char) : Nat :=
  c.toNat - '0'.toNat

/-- The digits of a natural, most significant first. -/
def digits (n : Nat) : List Char :=
  Nat.toDigits 10 n

/-- The natural that digits stand for. -/
def value (ds : List Char) : Nat :=
  ds.foldl (fun n c => 10 * n + digitValue c) 0

/-- Digits with zeros in front, so that there are at least `width` of them. -/
def padLeft (width : Nat) (ds : List Char) : List Char :=
  List.replicate (width - ds.length) '0' ++ ds

/-- Digits without the zeros at their end. -/
def dropTrailingZeros (ds : List Char) : List Char :=
  (ds.reverse.dropWhile (· == '0')).reverse

/-- The text of `n / 10 ^ places` with exactly that many places after the point, and no point
when there are none. -/
def withPlaces (n places : Nat) : List Char :=
  let ds := padLeft (places + 1) (digits n)
  let whole := ds.take (ds.length - places)
  if places = 0 then whole else whole ++ '.' :: ds.drop (ds.length - places)

end RankedRetrieval.Decimal
