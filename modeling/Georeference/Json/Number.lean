/-
**The values of JSON numbers.**

A number is read into binary64 without asking for the nearest one. Digits are taken as long as the
whole number that they form fits into a word of 64 bits, and the power of ten that is left is
applied by one multiplication or division, or by several divisions when it is very small. Numbers
that come out infinite are refused.

* `Literal.natural?`: a whole number without a sign.
* `Literal.float?`: the binary64 value.
-/

import Georeference.Json.Reader

namespace Georeference.Json

/-- Takes digits onto a number as long as it fits into a word of 64 bits; says how many are left. -/
def takeDigits : Nat → List Char → Nat × Nat
  | value, [] => (value, 0)
  | value, c :: rest =>
    let longer := 10 * value + (c.toNat - 0x30)
    if longer < UInt64.size then takeDigits longer rest else (value, rest.length + 1)

/-- The nearest binary64 number to a power of ten. -/
def powerOfTen (exponent : Nat) : Float := Float.ofScientific 1 false exponent

/-- Multiplies a number by a power of ten, where that leads to a finite number. Powers below
`10 ^ -308` are applied in steps. -/
def scaled : Nat → Float → Int → Option Float
  | steps, x, exponent =>
    if exponent.natAbs ≤ 308 then
      if exponent < 0 then some (x / powerOfTen exponent.natAbs)
      else
        let product := x * powerOfTen exponent.natAbs
        if product.isInf then none else some product
    else if x == 0 then some x
    else if 0 < exponent then none
    else match steps with
      | 0 => some 0
      | steps + 1 => scaled steps (x / powerOfTen 308) (exponent + 308)

namespace Literal

/-- The value of a whole number without a sign. -/
def natural? (literal : Literal) : Option Nat :=
  if literal.isWhole && !literal.negative then Decimal.natural? literal.whole else none

def float? (literal : Literal) : Option Float :=
  let (whole, wholeLeft) := takeDigits 0 literal.whole
  let (significand, fractionLeft) := takeDigits whole literal.fraction
  let places := literal.fraction.length - fractionLeft
  let exponent := (wholeLeft : Int) - places + literal.exponent
  (scaled (exponent.natAbs / 308) (Float.ofNat significand) exponent).map fun size =>
    if literal.negative then -size else size

end Literal

namespace Value

/-- The value of a whole number below a bound. -/
def natural? (bound : Nat) : Value → Option Nat
  | .number literal => literal.natural?.filter fun value => value < bound
  | _ => none

def float? : Value → Option Float
  | .number literal => literal.float?
  | _ => none

end Value

end Georeference.Json
