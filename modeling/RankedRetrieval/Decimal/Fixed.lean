import RankedRetrieval.Binary64
import RankedRetrieval.Decimal.Shortest

/-!
# Decimal text with fixed places

A number is written with a given number of places after the point.

## Main Definitions

* `Decimal.fixed` — the text of a number with fixed places

## Design Notes

The exact value is rounded, so a tie is a tie of the value and not of its digits; it goes to
the even neighbour.  The sign is kept when the number is rounded to zero.
-/

namespace RankedRetrieval.Decimal

/-- The text of a number with `places` places after the point. -/
def fixed (places : Nat) (x : Float) : String :=
  match Binary64.ofFloat x with
  | .nan => "NaN"
  | .infinite negative => if negative then "-inf" else "inf"
  | .finite negative significand exponent =>
    let scaled :=
      Binary64.roundHalfEven (significand * Nat.pow 2 exponent.toNat * Nat.pow 10 places)
        (Nat.pow 2 (-exponent).toNat)
    String.ofList (signed negative (withPlaces scaled places))

end RankedRetrieval.Decimal
