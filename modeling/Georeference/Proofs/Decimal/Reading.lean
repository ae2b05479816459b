/-
**Digits that are read as binary64 numbers.**

A number is read from a text in three steps: its sign, then the words `inf`, `infinity` and `nan`,
then digits with an optional point and exponent. What begins with a digit gets to the last step, and
zeros behind the point add nothing there.

### The parts of a numeral

* `spanDigits_append`: digits are read up to the first character that is none.
* `zeroPlaces`: a point and zeros behind it, or nothing at all.
* `numeral?_zeroPlaces`: digits with such an end are read as the number that they denote.

### The number

* `magnitude?_of_digit`, `float?_of_digit`: a digit in front is no sign and begins no word.
* `float?_zeroPlaces`: the binary64 number is that of the natural number.

**The proof is by what ends the digits.** With no places nothing stands behind them. With some, the
point ends the digits of the whole part, and the end of the text those of the fraction. The reader
strips the zeros from the end of the fraction before it puts the two together, so nothing is left of
it and the exponent is zero.
-/

import Georeference.Decimal.Reader
import Georeference.Proofs.Decimal.Integer
import Georeference.Proofs.Text.Search

namespace Georeference.Decimal

variable {digits rest : List Char}

theorem spanDigits_append (all : ∀ c ∈ digits, c.isDigit = true)
    (ends : ∀ c ∈ rest.head?, c.isDigit = false) :
    spanDigits (digits ++ rest) = (digits, rest) := by
  have stop : rest.takeWhile Char.isDigit = [] ∧ rest.dropWhile Char.isDigit = rest := by
    cases rest with
    | nil => exact ⟨rfl, rfl⟩
    | cons c others => simp [ends c rfl]
  rw [spanDigits, List.takeWhile_append_of_pos all, List.dropWhile_append_of_pos all,
    stop.1, stop.2, List.append_nil]

/-! ### Zeros behind the point -/

/-- The point and a number of zeros behind it, or nothing if there are none. -/
def zeroPlaces (places : Nat) : List Char :=
  if places = 0 then [] else '.' :: List.replicate places '0'

/-- **Digits, with or without zeros behind the point**, are read as what they denote. -/
theorem numeral?_zeroPlaces (shape : Digits digits) (places : Nat) :
    numeral? (digits ++ zeroPlaces places) = some ⟨Nat.ofDigitChars 10 digits 0, 0⟩ := by
  have nonempty : digits.isEmpty = false := List.isEmpty_eq_false_iff.mpr shape.1
  by_cases absent : places = 0
  · have whole : spanDigits (digits ++ []) = (digits, []) := spanDigits_append shape.2 (by simp)
    rw [zeroPlaces, if_pos absent, numeral?, whole]
    simp [nonempty, exponent?]
  · have whole : spanDigits (digits ++ '.' :: List.replicate places '0') =
        (digits, '.' :: List.replicate places '0') := by
      refine spanDigits_append shape.2 ?_
      rintro c ⟨⟩
      rfl
    have fraction : spanDigits (List.replicate places '0' ++ []) =
        (List.replicate places '0', []) :=
      spanDigits_append (fun _ => isDigit_of_mem_replicate) (by simp)
    rw [List.append_nil] at fraction
    rw [zeroPlaces, if_neg absent, numeral?, whole]
    simp [fraction, nonempty, exponent?]

/-! ### Numbers without a sign -/

/-- What begins with a digit is no word such as `inf` or `nan`. -/
theorem magnitude?_of_digit {first : Char} (digit : first.isDigit = true) (rest : List Char) :
    magnitude? (first :: rest) = (numeral? (first :: rest)).map Numeral.toFloat := by
  have other : ∀ {c : Char} {word : List Char}, c.isDigit = false →
      (first :: rest).map Char.toLower ≠ c :: word := by
    intro c word other same
    rw [List.map_cons, Text.toLower_of_isDigit digit] at same
    rw [(List.cons.inj same).1, other] at digit
    cases digit
  rw [magnitude?, if_neg, if_neg]
  · exact other rfl
  · rw [Bool.or_eq_true, decide_eq_true_eq, decide_eq_true_eq, not_or]
    exact ⟨other rfl, other rfl⟩

theorem float?_of_digit {first : Char} (digit : first.isDigit = true) (rest : List Char) :
    float? (first :: rest) = (numeral? (first :: rest)).map Numeral.toFloat := by
  rw [← magnitude?_of_digit digit]
  unfold float?
  split
  · rename_i same
    rw [(List.cons.inj same).1] at digit
    cases digit
  · rename_i same
    rw [(List.cons.inj same).1] at digit
    cases digit
  · rfl

/-- **Such digits are read as the binary64 number** of what they denote. -/
theorem float?_zeroPlaces (shape : Digits digits) (places : Nat) :
    float? (digits ++ zeroPlaces places) = some (Float.ofNat (Nat.ofDigitChars 10 digits 0)) := by
  have read := numeral?_zeroPlaces shape places
  obtain ⟨first, others, rfl⟩ := List.exists_cons_of_ne_nil shape.1
  rw [List.cons_append] at read ⊢
  rw [float?_of_digit shape.isDigit_head, read]
  rfl

end Georeference.Decimal
