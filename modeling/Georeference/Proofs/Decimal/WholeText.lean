/-
**Whole numbers are read back from their texts.**

Whatever the number of places, the text of a whole number with them is exact: its digits, and as
many zeros behind the point. So the number that is read from it has the same value.

### Writing

* `roundedQuotient_mul`: nothing is rounded when nothing is left over.
* `toDigits_mul_pow`, `positional_whole`, `fixedDigits_whole`: ten times as much is a zero more,
  which the point leaves behind.
* `IsWhole.fixedText_eq`: what is written.

### Reading

* `float?_toDigits`: what is read from digits and such zeros.
* `IsWhole.exists_float?_fixedText`, `exists_float?_toString`: a whole number is read back, with
  places or without.

**The proof is by induction on the number of places.** A number is written as a whole number of
units of its last place, and each place makes ten times as many of them. The significand and its
exponent are a fraction whose denominator is the power of two that fills the significand up, so the
division leaves nothing over. Zero stands apart: it has a single digit, and the writer puts a zero
in front of the point by itself. What is read from the text is `float?_zeroPlaces`, and a natural
number below `2 ^ 53` is converted exactly.
-/

import Georeference.Decimal.Fixed
import Georeference.Proofs.Decimal.Reading
import Georeference.Proofs.Decimal.Whole

namespace Georeference.Decimal

variable {number : Nat}

/-! ### Writing -/

theorem roundedQuotient_mul (number : Nat) {denominator : Nat} (positive : 0 < denominator) :
    roundedQuotient (number * denominator) denominator = number := by
  rw [roundedQuotient, Nat.mul_mod_left, Nat.mul_div_cancel number positive, Nat.mul_zero,
    if_pos positive]

/-- **Ten times as much is a zero more.** -/
theorem toDigits_mul_pow (positive : 0 < number) (zeros : Nat) :
    Nat.toDigits 10 (number * 10 ^ zeros) = Nat.toDigits 10 number ++ List.replicate zeros '0' := by
  induction zeros with
  | zero => rw [Nat.pow_zero, Nat.mul_one, List.replicate_zero, List.append_nil]
  | succ zeros ih =>
    have shifted : number * 10 ^ (zeros + 1) = 10 * (number * 10 ^ zeros) + 0 := by
      rw [Nat.pow_succ, Nat.add_zero, Nat.mul_comm 10, Nat.mul_assoc]
    have more : 0 < number * 10 ^ zeros := Nat.mul_pos positive (Nat.pow_pos (by decide))
    rw [shifted, ← Nat.toDigits_append_toDigits (by decide) more (by decide), ih, List.append_assoc,
      List.replicate_succ']
    rfl

/-- The point stands in front of the zeros. -/
theorem positional_whole (number places : Nat) :
    positional ⟨number * 10 ^ places, -(places : Int)⟩ =
      (Nat.toDigits 10 number, List.replicate places '0') := by
  rcases Nat.eq_zero_or_pos places with rfl | positive
  · simp [positional]
  have behind : ¬ 0 ≤ -(places : Int) := by omega
  have amount : (- -(places : Int)).toNat = places := by omega
  rw [positional]
  dsimp only
  rw [if_neg behind, amount]
  rcases Nat.eq_zero_or_pos number with rfl | positive
  · rw [Nat.zero_mul, Nat.toDigits_of_lt_base (by decide), List.length_singleton,
      if_pos (Nat.succ_le_of_lt positive)]
    have zeros : List.replicate (places - 1) '0' ++ ['0'] = List.replicate places '0' := by
      rw [← List.replicate_succ', Nat.sub_add_cancel positive]
    exact congrArg (['0'], ·) zeros
  · have digits : 0 < (Nat.toDigits 10 number).length := Nat.length_toDigits_pos
    rw [toDigits_mul_pow positive, List.length_append, List.length_replicate, if_neg (by omega),
      Nat.add_sub_cancel, List.take_left, List.drop_left]

theorem fixedDigits_whole (places number : Nat) :
    fixedDigits places (number * 10 ^ places) = Nat.toDigits 10 number ++ zeroPlaces places := by
  rw [fixedDigits, positional_whole]
  simp [zeroPlaces]

variable {x : Float}

/-- **The text of a whole number** is exact, whatever the number of places. -/
theorem IsWhole.fixedText_eq (isWhole : IsWhole x number) (places : Nat) :
    fixedText places x = String.ofList (Nat.toDigits 10 number ++ zeroPlaces places) := by
  rw [← fixedDigits_whole]
  rcases Nat.eq_zero_or_pos number with rfl | positive
  · have shape : Shape.ofFloat x = .zero false := by
      rw [Shape.ofFloat_eq, isWhole]
      rfl
    rw [fixedText, shape, Nat.zero_mul]
    rfl
  · have up : (-(filling number : Int)).toNat = 0 := by omega
    have units : number * 2 ^ filling number * Nat.pow 2 0 * Nat.pow 10 places =
        number * 10 ^ places * 2 ^ filling number := by
      rw [Nat.pow_eq, Nat.pow_eq, Nat.pow_zero, Nat.mul_one, Nat.mul_right_comm]
    rw [fixedText, isWhole.shape_of_pos positive]
    dsimp only
    rw [up, units, Int.neg_neg, Int.toNat_natCast, Nat.pow_eq,
      roundedQuotient_mul _ (Nat.two_pow_pos _)]
    rfl

/-! ### Reading -/

theorem float?_toDigits (number places : Nat) :
    float? (Nat.toDigits 10 number ++ zeroPlaces places) = some (Float.ofNat number) := by
  rw [float?_zeroPlaces (digits_toDigits number), Nat.ofDigitChars_ten_toDigits]

/-- **A whole number written with any number of places is read back.** -/
theorem IsWhole.exists_float?_fixedText (isWhole : IsWhole x number) (small : number < 2 ^ 53)
    (places : Nat) : ∃ y, float? (fixedText places x).toList = some y ∧ IsWhole y number := by
  rw [isWhole.fixedText_eq, String.toList_ofList, float?_toDigits]
  exact ⟨_, rfl, isWhole_ofNat small⟩

/-- **A whole number written with its digits alone is read back.** -/
theorem exists_float?_toString (small : number < 2 ^ 53) :
    ∃ y, float? (toString number).toList = some y ∧ IsWhole y number := by
  have read := float?_toDigits number 0
  rw [zeroPlaces, if_pos rfl, List.append_nil, ← toList_toString] at read
  exact ⟨_, read, isWhole_ofNat small⟩

end Georeference.Decimal
