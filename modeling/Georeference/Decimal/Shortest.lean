/-
**Shortest decimal texts of binary64 numbers.**

A finite number other than zero is `significand · 2 ^ exponent`; the reals that round to it form an
interval around it, whose ends belong to it when the significand is even. Of the decimal fractions
in that interval those on the coarsest decimal grid are the shortest, and the number is written
with the one nearest to it.

* `Shape`: the cases of a binary64 number, finite ones as a significand and a power of two.
* `shortest`: the shortest decimal fraction that reads back as a given number.
* `plainText`: digits and a point, never an exponent, whole numbers without a point.
* `pointedText?`: whole numbers keep a point and one zero, and numbers of sixteen whole digits or
  more, or of five zeros or more after the point, take an exponent.
-/

import Georeference.Decimal.Reader

namespace Georeference.Decimal

/-- The cases of a binary64 number. -/
inductive Shape where
  | notANumber
  | infinite (negative : Bool)
  | zero (negative : Bool)
  | finite (negative : Bool) (significand : Nat) (exponent : Int)
deriving DecidableEq

/-- The bit of a significand that is not stored: `2 ^ 52`. -/
def leadingBit : Nat := 0x10000000000000

/-- Takes a number apart by its sign bit, its eleven exponent bits and its fraction bits. -/
def Shape.ofFloat (x : Float) : Shape :=
  let word := x.toBits.toNat
  let negative := word / leadingBit / 0x800 == 1
  let power : Nat := word / leadingBit % 0x800
  let fraction := word % leadingBit
  if power = 0x7FF then
    if fraction = 0 then .infinite negative else .notANumber
  else if power = 0 then
    if fraction = 0 then .zero negative else .finite negative fraction (-1074)
  else .finite negative (leadingBit + fraction) ((power : Int) - 1075)

/-- A positive number as a fraction, with the ends of the interval of reals that round to it over
the same denominator. -/
structure Rounding where
  low : Nat
  value : Nat
  high : Nat
  denominator : Nat
  closed : Bool

/-- The interval of reals that round to `significand · 2 ^ exponent`. Just above a power of two the
neighbour below is at half the distance of the neighbour above. -/
def Rounding.around (significand : Nat) (exponent : Int) : Rounding :=
  let narrow := significand == leadingBit && exponent != -1074
  let scale := Nat.pow 2 (exponent - 2).toNat
  { low := (4 * significand - if narrow then 1 else 2) * scale
    value := 4 * significand * scale
    high := (4 * significand + 2) * scale
    denominator := Nat.pow 2 (2 - exponent).toNat
    closed := significand % 2 == 0 }

/-- The same fractions in units of `10 ^ power`. -/
def Rounding.inUnits (around : Rounding) (power : Int) : Rounding :=
  let scale := Nat.pow 10 (-power).toNat
  { around with
    low := around.low * scale
    value := around.value * scale
    high := around.high * scale
    denominator := around.denominator * Nat.pow 10 power.toNat }

/-- Whether a whole number of units rounds to the number. -/
def Rounding.admits (around : Rounding) (units : Nat) : Bool :=
  let scaled := units * around.denominator
  0 < units &&
    if around.closed then around.low ≤ scaled && scaled ≤ around.high
    else around.low < scaled && scaled < around.high

/-- Which of two equally near fractions is taken. -/
inductive TieRule where
  | upward
  | toEven
deriving DecidableEq

/-- The whole number of units that is nearest among those admitted, if one is. -/
def Rounding.nearest? (around : Rounding) (tie : TieRule) : Option Nat :=
  let below := around.value / around.denominator
  let above := below + 1
  match around.admits below, around.admits above with
  | false, false => none
  | true, false => some below
  | false, true => some above
  | true, true =>
    let twice := 2 * (around.value % around.denominator)
    if twice < around.denominator then some below
    else if around.denominator < twice then some above
    else match tie with
      | .upward => some above
      | .toEven => some (if below % 2 = 0 then below else above)

/-- Tries the grids of the powers of ten from a coarse one on, each ten times finer. -/
def Rounding.search (around : Rounding) (tie : TieRule) : Nat → Int → Numeral
  | 0, power => ⟨around.value / around.denominator, power⟩
  | tries + 1, power =>
    match (around.inUnits power).nearest? tie with
    | some units => ⟨units, power⟩
    | none => search around tie tries (power - 1)

/-- A power of ten above `2 ^ bits`: a little more than `bits · log₁₀ 2`. -/
def powerOfTenAbove (bits : Int) : Int :=
  bits * 30103 / 100000 + 1

/-- The shortest decimal fraction that reads back as `significand · 2 ^ exponent`. Seventeen digits
always suffice, and two grids more cover the estimate of the first one. -/
def shortest (tie : TieRule) (significand : Nat) (exponent : Int) : Numeral :=
  (Rounding.around significand exponent).search tie 20
    (powerOfTenAbove (significand.log2 + 1 + exponent))

/-- Digits without an exponent, for a decimal fraction: zeros are added on either side of the point
as needed. -/
def positional (numeral : Numeral) : List Char × List Char :=
  let digits := Nat.toDigits 10 numeral.significand
  if 0 ≤ numeral.exponent then (digits ++ List.replicate numeral.exponent.toNat '0', [])
  else
    let places := (-numeral.exponent).toNat
    if digits.length ≤ places then
      (['0'], List.replicate (places - digits.length) '0' ++ digits)
    else (digits.take (digits.length - places), digits.drop (digits.length - places))

def signText (negative : Bool) : List Char :=
  if negative then ['-'] else []

/-- Digits and a point, never an exponent, whole numbers without a point. -/
def plainText (x : Float) : String :=
  match Shape.ofFloat x with
  | .notANumber => "NaN"
  | .infinite negative => String.ofList (signText negative ++ "inf".toList)
  | .zero negative => String.ofList (signText negative ++ ['0'])
  | .finite negative significand exponent =>
    let (whole, fraction) := positional (shortest .upward significand exponent)
    String.ofList
      (signText negative ++ whole ++ if fraction.isEmpty then [] else '.' :: fraction)

/-- A decimal fraction with one digit before the point and an exponent. -/
def scientific (numeral : Numeral) : List Char :=
  let digits := Nat.toDigits 10 numeral.significand
  let power := numeral.exponent + (digits.length - 1 : Nat)
  let fraction := digits.drop 1
  digits.take 1 ++ (if fraction.isEmpty then [] else '.' :: fraction) ++
    'e' :: (toString power).toList

/-- Whole numbers keep a point and one zero; large and small numbers take an exponent. There is no
text for an infinity or for what is not a number. -/
def pointedText? (x : Float) : Option String :=
  match Shape.ofFloat x with
  | .notANumber => none
  | .infinite _ => none
  | .zero negative => some (String.ofList (signText negative ++ "0.0".toList))
  | .finite negative significand exponent =>
    let numeral := shortest .toEven significand exponent
    let wholeDigits := numeral.exponent + (Nat.toDigits 10 numeral.significand).length
    let size :=
      if -5 < wholeDigits && wholeDigits ≤ 16 then
        let (whole, fraction) := positional numeral
        whole ++ '.' :: if fraction.isEmpty then ['0'] else fraction
      else scientific numeral
    some (String.ofList (signText negative ++ size))

end Georeference.Decimal
