/-
**Whole numbers as binary64 numbers.**

Whole numbers below `2 ^ 53` are binary64 numbers, and sums and products of them are exact as long
as they stay below it.

### Forms

* `filling`: how many zeros fill up the significand of a number to 53 bits.
* `wholeForm`: the form of a whole number, a significand that is filled up and the exponent that
  takes the zeros back.
* `roundWithAccuracy_whole`, `normalize_whole`: it is what rounding gives.

### Numbers

* `IsWhole`: a binary64 number with that form.
* `IsWhole.mul`, `IsWhole.add`, `isWhole_ofNat`: arithmetic and conversion are exact.
* `IsWhole.shape_of_pos`, `IsWhole.value`: the value is the whole number.

**The proof is that a whole number has one form.** Any number of zeros may stand behind its
significand, with the exponent that takes them back. If there are enough of them, rounding drops
those that are too many (`roundWithAccuracy_exact`); if there are too few, it puts the missing ones
there first (`round_whole`). Products have the zeros of both factors behind them, and these are
enough because a larger number needs no more zeros than a smaller one (`filling_anti`). Sums are
taken at the lower of the two exponents, where both significands have equally many zeros behind
them.
-/

import Georeference.Proofs.Decimal.Binary64

namespace Georeference.Decimal

open Float.Model Float.Model.UnpackedFloat

/-! ### Forms -/

/-- How many zeros fill up the significand of a whole number. -/
def filling (number : Nat) : Nat :=
  52 - number.log2

/-- The form of a whole number below `2 ^ 53`. -/
def wholeForm (number : Nat) : UnpackedFloat :=
  if positive : 0 < number then
    .finite .positive (number * 2 ^ filling number) (-(filling number : Int))
      (Nat.mul_pos positive (Nat.two_pow_pos _))
  else .zero .positive

section Forms

variable {number : Nat}

theorem wholeForm_of_pos (positive : 0 < number) :
    wholeForm number = .finite .positive (number * 2 ^ filling number) (-(filling number : Int))
      (Nat.mul_pos positive (Nat.two_pow_pos _)) :=
  dif_pos positive

theorem log2_add_filling (small : number < 2 ^ 53) : number.log2 + filling number = 52 := by
  have bound : number.log2 < 53 := by
    by_cases zero : number = 0
    · rw [zero, Nat.log2_zero]
      decide
    · exact (Nat.log2_lt zero).mpr small
  unfold filling
  omega

/-- A larger number needs no more zeros. -/
theorem filling_anti {larger : Nat} (le : number ≤ larger) : filling larger ≤ filling number := by
  have shorter : number.log2 ≤ larger.log2 := by
    by_cases zero : number = 0
    · rw [zero, Nat.log2_zero]
      exact Nat.zero_le _
    · exact (Nat.le_log2 (by omega)).mpr ((Nat.log2_self_le zero).trans le)
  exact Nat.sub_le_sub_left shorter 52

/-- The significand of a whole number is filled up. -/
theorem log2_significand (positive : 0 < number) (small : number < 2 ^ 53) :
    (number * 2 ^ filling number).log2 = 52 := by
  rw [log2_mul_two_pow positive.ne', log2_add_filling small]

/-! ### Rounding -/

/-- **A whole number with enough zeros behind it** is rounded to its form. -/
theorem roundWithAccuracy_whole (positive : 0 < number) (small : number < 2 ^ 53) {zeros : Nat}
    (enough : filling number ≤ zeros) :
    roundWithAccuracy Format.binary64 .positive (number * 2 ^ zeros) (-(zeros : Int)) .exact =
      wholeForm number := by
  obtain ⟨more, rfl⟩ := Nat.exists_eq_add_of_le enough
  have exponent : -((filling number + more : Nat) : Int) + more = -(filling number : Int) := by
    omega
  have low : -1074 ≤ -((filling number + more : Nat) : Int) + more := by
    unfold filling
    omega
  rw [Nat.pow_add, ← Nat.mul_assoc,
    roundWithAccuracy_exact (log2_significand positive small) .positive
      (Nat.mul_pos positive (Nat.two_pow_pos _)) more low, wholeForm_of_pos positive]
  exact finite_congr rfl exponent

/-- With too few zeros behind it, it is given the missing ones first. -/
theorem round_whole (positive : 0 < number) (small : number < 2 ^ 53) (zeros : Nat) :
    UnpackedFloat.round Format.binary64 .positive (number * 2 ^ zeros) (-(zeros : Int)) =
      wholeForm number := by
  have filled := log2_add_filling small
  have target : Format.binary64.targetExponent
      (totalExponent (number * 2 ^ zeros) (-(zeros : Int))) = -(filling number : Int) := by
    rw [targetExponent_eq, totalExponent, log2_mul_two_pow positive.ne']
    omega
  have amount : (-(zeros : Int) - -(filling number : Int)).toNat = filling number - zeros := by
    omega
  have exponent : -(zeros : Int) - (filling number - zeros : Nat) =
      -((zeros + (filling number - zeros) : Nat) : Int) := by
    omega
  rw [UnpackedFloat.round, target]
  dsimp only [decreaseExponent]
  rw [amount, exponent, Nat.shiftLeft_eq, Nat.mul_assoc, ← Nat.pow_add]
  exact roundWithAccuracy_whole positive small (by omega)

/-- Bringing a whole number to a lower exponent puts zeros behind it. -/
theorem decreaseExponent_filled {zeros : Nat} (enough : filling number ≤ zeros) :
    decreaseExponent (number * 2 ^ filling number) (-(filling number : Int)) (-(zeros : Int)) =
      (number * 2 ^ zeros, -(zeros : Int)) := by
  have amount : (-(filling number : Int) - -(zeros : Int)).toNat = zeros - filling number := by
    omega
  have exponent : -(filling number : Int) - (zeros - filling number : Nat) = -(zeros : Int) := by
    omega
  rw [decreaseExponent, amount, exponent, Nat.shiftLeft_eq, Nat.mul_assoc, ← Nat.pow_add,
    Nat.add_sub_cancel' enough]

theorem normalize_whole (small : number < 2 ^ 53) (zeros : Nat) :
    UnpackedFloat.normalize Format.binary64 ((number * 2 ^ zeros : Nat) : Int) (-(zeros : Int))
      .positive = wholeForm number := by
  unfold UnpackedFloat.normalize
  rcases Nat.eq_zero_or_pos number with rfl | positive
  · rw [Nat.zero_mul]
    rfl
  · have above : compare ((number * 2 ^ zeros : Nat) : Int) 0 = .gt := by
      rw [Int.compare_eq_gt]
      exact Int.natCast_pos.mpr (Nat.mul_pos positive (Nat.two_pow_pos zeros))
    rw [above]
    exact round_whole positive small zeros

end Forms

/-! ### Arithmetic of forms -/

section Arithmetic

variable {first second : Nat}

theorem mul_wholeForm (small : first * second < 2 ^ 53) :
    UnpackedFloat.mul Format.binary64 (wholeForm first) (wholeForm second) =
      wholeForm (first * second) := by
  rcases Nat.eq_zero_or_pos first with rfl | positive
  · rw [Nat.zero_mul]
    rcases Nat.eq_zero_or_pos second with rfl | positive'
    · rfl
    · rw [wholeForm_of_pos positive']
      rfl
  rcases Nat.eq_zero_or_pos second with rfl | positive'
  · rw [Nat.mul_zero, wholeForm_of_pos positive]
    rfl
  have significand : first * 2 ^ filling first * (second * 2 ^ filling second) =
      first * second * 2 ^ (filling first + filling second) := by
    rw [Nat.pow_add]
    exact Nat.mul_mul_mul_comm ..
  have exponent : -(filling first : Int) + -(filling second : Int) =
      -((filling first + filling second : Nat) : Int) := by
    omega
  have enough : filling (first * second) ≤ filling first + filling second :=
    (filling_anti (Nat.le_mul_of_pos_right first positive')).trans (Nat.le_add_right _ _)
  rw [wholeForm_of_pos positive, wholeForm_of_pos positive']
  change roundWithAccuracy Format.binary64 .positive _ _ .exact = _
  rw [significand, exponent]
  exact roundWithAccuracy_whole (Nat.mul_pos positive positive') small enough

/-- Sums of finite numbers are taken at the lower exponent. -/
theorem add_finite {sign other : Sign} {mantissa mantissa' : Nat} {exponent exponent' least : Int}
    {positive : 0 < mantissa} {positive' : 0 < mantissa'} (lower : min exponent exponent' = least) :
    UnpackedFloat.add Format.binary64 (.finite sign mantissa exponent positive)
        (.finite other mantissa' exponent' positive') =
      UnpackedFloat.normalize Format.binary64
        (sign.apply ((decreaseExponent mantissa exponent least).1 : Nat) +
          other.apply ((decreaseExponent mantissa' exponent' least).1 : Nat)) least .positive := by
  subst lower
  rfl

theorem add_wholeForm (small : first + second < 2 ^ 53) :
    UnpackedFloat.add Format.binary64 (wholeForm first) (wholeForm second) =
      wholeForm (first + second) := by
  rcases Nat.eq_zero_or_pos first with rfl | positive
  · rw [Nat.zero_add]
    rcases Nat.eq_zero_or_pos second with rfl | positive'
    · rfl
    · rw [wholeForm_of_pos positive']
      rfl
  rcases Nat.eq_zero_or_pos second with rfl | positive'
  · rw [Nat.add_zero, wholeForm_of_pos positive]
    rfl
  obtain ⟨zeros, enough, enough', exponent⟩ : ∃ zeros, filling first ≤ zeros ∧
      filling second ≤ zeros ∧ min (-(filling first : Int)) (-(filling second)) = -zeros :=
    ⟨max (filling first) (filling second), le_max_left _ _, le_max_right _ _, by omega⟩
  have sum : Sign.positive.apply ((first * 2 ^ zeros : Nat) : Int) +
      Sign.positive.apply ((second * 2 ^ zeros : Nat) : Int) =
        (((first + second) * 2 ^ zeros : Nat) : Int) := by
    rw [Nat.add_mul]
    rfl
  rw [wholeForm_of_pos positive, wholeForm_of_pos positive', add_finite exponent,
    decreaseExponent_filled enough, decreaseExponent_filled enough', sum]
  exact normalize_whole small zeros

end Arithmetic

/-! ### Numbers -/

/-- A binary64 number is a whole number. -/
def IsWhole (x : Float) (number : Nat) : Prop :=
  x.toModel.unpack = wholeForm number

section Numbers

variable {x y : Float} {number first second : Nat}

theorem isWhole_pack (small : number < 2 ^ 53) :
    IsWhole (.ofModel (Float.Model.pack (wholeForm number))) number := by
  unfold IsWhole
  rcases Nat.eq_zero_or_pos number with rfl | positive
  · rfl
  · rw [wholeForm_of_pos positive]
    refine unpack_pack_exact (log2_significand positive small) .positive _ ?_ ?_
    · unfold filling
      omega
    · omega

/-- **Products are exact** as long as they stay below `2 ^ 53`. -/
theorem IsWhole.mul (isWhole : IsWhole x first) (isWhole' : IsWhole y second)
    (small : first * second < 2 ^ 53) : IsWhole (x * y) (first * second) := by
  have product : x * y = .ofModel (Float.Model.pack (UnpackedFloat.mul Format.binary64
      x.toModel.unpack y.toModel.unpack)) := rfl
  rw [product, isWhole, isWhole', mul_wholeForm small]
  exact isWhole_pack small

/-- **Sums are exact** as long as they stay below `2 ^ 53`. -/
theorem IsWhole.add (isWhole : IsWhole x first) (isWhole' : IsWhole y second)
    (small : first + second < 2 ^ 53) : IsWhole (x + y) (first + second) := by
  have sum : x + y = .ofModel (Float.Model.pack (UnpackedFloat.add Format.binary64
      x.toModel.unpack y.toModel.unpack)) := rfl
  rw [sum, isWhole, isWhole', add_wholeForm small]
  exact isWhole_pack small

/-- A word of 64 bits is converted exactly. -/
theorem isWhole_toFloat {word : UInt64} (small : word.toNat < 2 ^ 53) :
    IsWhole word.toFloat word.toNat := by
  have converted := normalize_whole small 0
  rw [Nat.pow_zero, Nat.mul_one] at converted
  have form : word.toFloat = .ofModel (Float.Model.pack (UnpackedFloat.normalize Format.binary64
      (word.toNat : Int) (-((0 : Nat) : Int)) .positive)) := rfl
  rw [form, converted]
  exact isWhole_pack small

/-- **Numbers below `2 ^ 53`** are converted exactly. -/
theorem isWhole_ofNat (small : number < 2 ^ 53) : IsWhole (Float.ofNat number) number := by
  have unit : Float.ofBits 0x3FF0000000000000 = .ofModel (Float.Model.pack (wholeForm 1)) := by
    decide +kernel
  have word : number.toUInt64.toNat = number := by
    rw [Nat.toUInt64_eq, UInt64.toNat_ofNat']
    exact Nat.mod_eq_of_lt (by omega)
  have converted : Float.ofNat number =
      number.toUInt64.toFloat * Float.ofBits 0x3FF0000000000000 :=
    dif_pos ⟨small, Nat.zero_le _⟩
  have isWhole : IsWhole number.toUInt64.toFloat number := by
    have isWhole := isWhole_toFloat (word.symm ▸ small)
    rwa [word] at isWhole
  have product := isWhole.mul (isWhole_pack (by decide : 1 < 2 ^ 53)) (by omega)
  rwa [Nat.mul_one, ← unit, ← converted] at product

/-! ### Values -/

theorem IsWhole.shape_of_pos (isWhole : IsWhole x number) (positive : 0 < number) :
    Shape.ofFloat x =
      .finite false (number * 2 ^ filling number) (-(filling number : Int)) := by
  rw [Shape.ofFloat_eq, isWhole, wholeForm_of_pos positive]
  rfl

/-- **The value of a whole number.** -/
theorem IsWhole.value (isWhole : IsWhole x number) : value? x = some (number : ℚ) := by
  rcases Nat.eq_zero_or_pos number with rfl | positive
  · rw [value?, Shape.ofFloat_eq, isWhole]
    exact congrArg some Nat.cast_zero.symm
  · rw [value?, isWhole.shape_of_pos positive, Shape.value?, Option.some.injEq, zpow_neg,
      zpow_natCast]
    have nonzero : (2 : ℚ) ^ filling number ≠ 0 := pow_ne_zero _ two_ne_zero
    rw [if_neg (by decide), one_mul, Nat.cast_mul, Nat.cast_pow, Nat.cast_ofNat,
      mul_inv_cancel_right₀ nonzero]

end Numbers

end Georeference.Decimal
