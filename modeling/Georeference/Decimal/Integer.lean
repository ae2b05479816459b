/-
**Integers in text.**

* `natural?`: one or more ASCII digits, leading zeros allowed.
* `integer?`: an optional sign before such digits.
* `boundedInteger?`: the same within the range of a signed word.
* `paddedText`: a natural number with zeros in front up to a least width.
-/

namespace Georeference.Decimal

/-- The number that one or more ASCII digits denote. -/
def natural? (text : List Char) : Option Nat :=
  if !text.isEmpty && text.all Char.isDigit then some (Nat.ofDigitChars 10 text 0) else none

/-- The number that an optional sign and one or more ASCII digits denote. -/
def integer? : List Char → Option Int
  | '+' :: digits => (natural? digits).map fun (size : Nat) => (size : Int)
  | '-' :: digits => (natural? digits).map fun (size : Nat) => -(size : Int)
  | digits => (natural? digits).map fun (size : Nat) => (size : Int)

/-- An integer that fits into a signed word with the given number of values. -/
def boundedInteger? (size : Nat) (text : List Char) : Option Int :=
  (integer? text).filter fun value => -((size / 2 : Nat) : Int) ≤ value && value < (size / 2 : Nat)

/-- The decimal digits of a number, with zeros in front up to the given width. -/
def paddedText (width value : Nat) : String :=
  let digits := Nat.toDigits 10 value
  String.ofList (List.replicate (width - digits.length) '0' ++ digits)

end Georeference.Decimal
