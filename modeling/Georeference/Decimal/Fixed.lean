/-
**Texts of binary64 numbers with a fixed number of places.**

A number is rounded exactly to a whole number of units of its last place, and to an even one if two
are equally near. The point stands in front of the places and is left out if there are none.

* `roundedQuotient`: the nearest whole number to a fraction.
* `fixedText`: a number with a given number of places.
-/

import Georeference.Decimal.Shortest

namespace Georeference.Decimal

/-- The nearest whole number to a fraction, ties to even. -/
def roundedQuotient (numerator denominator : Nat) : Nat :=
  let below := numerator / denominator
  let twice := 2 * (numerator % denominator)
  if twice < denominator then below
  else if denominator < twice then below + 1
  else below + below % 2

/-- A whole number of units of the last place, with the point in front of the places. -/
def fixedDigits (places units : Nat) : List Char :=
  let (whole, fraction) := positional ⟨units, -(places : Int)⟩
  whole ++ if fraction.isEmpty then [] else '.' :: fraction

/-- A number with a given number of digits behind the point. -/
def fixedText (places : Nat) (x : Float) : String :=
  match Shape.ofFloat x with
  | .notANumber => "NaN"
  | .infinite negative => String.ofList (signText negative ++ "inf".toList)
  | .zero negative => String.ofList (signText negative ++ fixedDigits places 0)
  | .finite negative significand exponent =>
    let units := roundedQuotient (significand * Nat.pow 2 exponent.toNat * Nat.pow 10 places)
      (Nat.pow 2 (-exponent).toNat)
    String.ofList (signText negative ++ fixedDigits places units)

end Georeference.Decimal
