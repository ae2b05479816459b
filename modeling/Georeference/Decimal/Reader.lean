/-
**Binary64 numbers in text.**

A number is an optional sign before a magnitude: `inf`, `infinity` or `nan` in any ASCII case, or
decimal digits with at most one point, a digit on one side of it at least, and an optional
exponent. The value is the nearest binary64 number, ties to the even one; too large a magnitude is
an infinity and too small a one a zero.

* `Numeral`: a decimal fraction as digits and a power of ten.
* `numeral?`: reading digits, point and exponent.
* `float?`: reading a number.
-/

import Georeference.Decimal.Integer

namespace Georeference.Decimal

/-- The decimal fraction `significand · 10 ^ exponent`. -/
structure Numeral where
  significand : Nat
  exponent : Int
deriving DecidableEq

/-- The nearest binary64 number, ties to even. -/
def Numeral.toFloat (numeral : Numeral) : Float :=
  if numeral.exponent < 0 then
    Float.ofScientific numeral.significand true (-numeral.exponent).toNat
  else Float.ofScientific numeral.significand false numeral.exponent.toNat

/-- The leading digits of a text and what follows them. -/
def spanDigits (text : List Char) : List Char × List Char :=
  (text.takeWhile Char.isDigit, text.dropWhile Char.isDigit)

/-- The exponent that ends a numeral: nothing, or `e` in either case before an integer. -/
def exponent? : List Char → Option Int
  | [] => some 0
  | c :: rest => if c = 'e' || c = 'E' then integer? rest else none

/-- Digits with at most one point among them, then an optional exponent. Zeros that end the
fraction add nothing and are dropped. -/
def numeral? (text : List Char) : Option Numeral :=
  let (whole, afterWhole) := spanDigits text
  let (fraction, tail) := match afterWhole with
    | '.' :: rest => spanDigits rest
    | rest => ([], rest)
  if whole.isEmpty && fraction.isEmpty then none
  else
    let kept := (fraction.reverse.dropWhile (· == '0')).reverse
    (exponent? tail).map fun power =>
      ⟨Nat.ofDigitChars 10 (whole ++ kept) 0, power - kept.length⟩

def infinity : Float := Float.ofBits 0x7FF0000000000000

def notANumber : Float := Float.ofBits 0x7FF8000000000000

def magnitude? (text : List Char) : Option Float :=
  let lower := text.map Char.toLower
  if lower = "inf".toList || lower = "infinity".toList then some infinity
  else if lower = "nan".toList then some notANumber
  else (numeral? text).map Numeral.toFloat

/-- A number with an optional sign. -/
def float? : List Char → Option Float
  | '+' :: rest => magnitude? rest
  | '-' :: rest => (magnitude? rest).map fun size => -size
  | text => magnitude? text

end Georeference.Decimal
