/-
**Binary64 numbers as fractions, and what rounding leaves as it is.**

A finite number is a significand times a power of two. The bits of a word are taken apart here as
the arithmetic takes them apart, so what the arithmetic makes of numbers can be said of their
values. Rounding changes nothing where the significand fits after some of its zeros are dropped.

### Values

* `Shape.value?`, `value?`: the rational number that a binary64 number is.
* `Shape.ofFloat_eq`: sign, significand and exponent are those of the arithmetic.

### Exact results

* `roundWithAccuracy_exact`: rounding drops zeros at the end of a significand that fits without
  them, and nothing else.
* `unpack_pack_exact`: a significand that fits is kept in a word.

**The proof follows the three fields of a word.** Each field is a quotient and a remainder of the
word as a number (`toNat_unpackSign`, `toNat_unpackExponent`, `toNat_unpackMantissa`), and by its
exponent a word is one of three kinds (`unpack_full`, `unpack_empty`, `unpack_normal`). Rounding
shifts a significand until it has 53 bits. Where only zeros are shifted out, by induction on how
many there are, nothing is left over that could be rounded (`shiftRight_exact`), and the second
shift after rounding is by no bits at all.
-/

import Georeference.Decimal.Shortest
import Mathlib.Algebra.Field.Rat
import Mathlib.Algebra.Order.Ring.Nat

namespace Georeference.Decimal

open Float.Model Float.Model.UnpackedFloat

/-! ### Values -/

/-- The rational number of a shape, if it is one of a number. -/
def Shape.value? : Shape → Option ℚ
  | .notANumber => none
  | .infinite _ => none
  | .zero _ => some 0
  | .finite negative significand exponent =>
    some ((if negative then -1 else 1) * significand * 2 ^ exponent)

/-- The rational number that a binary64 number is, if it is finite. -/
def value? (x : Float) : Option ℚ :=
  (Shape.ofFloat x).value?

/-! ### The fields of a word -/

def isNegative : Sign → Bool
  | .negative => true
  | .positive => false

/-- The shape of a number as the arithmetic has it. -/
def Shape.ofUnpacked : UnpackedFloat → Shape
  | .notANumber => .notANumber
  | .infinity sign => .infinite (isNegative sign)
  | .zero sign => .zero (isNegative sign)
  | .finite sign significand exponent _ => .finite (isNegative sign) significand exponent

section Fields

variable (word : BitVec 64)

theorem toNat_unpackMantissa :
    (@unpackMantissa Format.binary64 word).toNat = word.toNat % leadingBit := by
  rw [unpackMantissa, BitVec.toNat_cast, BitVec.extractLsb_toNat]
  rfl

theorem toNat_unpackExponent :
    (@unpackExponent Format.binary64 word).toNat = word.toNat / leadingBit % 0x800 := by
  rw [unpackExponent, BitVec.toNat_cast, BitVec.extractLsb_toNat, Nat.shiftRight_eq_div_pow]
  rfl

theorem toNat_unpackSign :
    (@unpackSign Format.binary64 word).toNat = word.toNat / leadingBit / 0x800 := by
  have bound : word.toNat < 2 ^ 63 * 2 := word.isLt
  calc (@unpackSign Format.binary64 word).toNat = (word.extractLsb 63 63).toNat := rfl
    _ = word.toNat / 2 ^ 63 % 2 := by
      rw [BitVec.extractLsb_toNat, Nat.shiftRight_eq_div_pow]
    _ = word.toNat / 2 ^ 63 := Nat.mod_eq_of_lt (Nat.div_lt_of_lt_mul bound)
    _ = word.toNat / leadingBit / 0x800 := (Nat.div_div_eq_div_mul _ leadingBit 0x800).symm

theorem unpackMantissa_eq_zero_iff :
    @unpackMantissa Format.binary64 word = 0#52 ↔ word.toNat % leadingBit = 0 := by
  rw [← BitVec.toNat_inj, toNat_unpackMantissa]
  rfl

theorem unpackExponent_eq_zero_iff :
    @unpackExponent Format.binary64 word = 0#11 ↔
      word.toNat / leadingBit % 0x800 = 0 := by
  rw [← BitVec.toNat_inj, toNat_unpackExponent]
  rfl

theorem unpackExponent_eq_ones_iff :
    @unpackExponent Format.binary64 word = -1#11 ↔
      word.toNat / leadingBit % 0x800 = 0x7FF := by
  rw [← BitVec.toNat_inj, toNat_unpackExponent]
  rfl

end Fields

theorem isNegative_ofBitVec (bit : BitVec 1) :
    isNegative (Sign.ofBitVec bit) = (bit.toNat == 1) := by
  revert bit
  decide

theorem toNat_append {front back : Nat} (high : BitVec front) (low : BitVec back) :
    (high ++ low).toNat = high.toNat * 2 ^ back + low.toNat := by
  rw [BitVec.toNat_append, ← Nat.shiftLeft_add_eq_or_of_lt low.isLt, Nat.shiftLeft_eq]

/-- The bit of a significand that is not stored stands in front of the others. -/
theorem toNat_leadingBit_append (fraction : BitVec 52) :
    (1#1 ++ fraction).toNat = leadingBit + fraction.toNat := by
  rw [toNat_append]
  rfl

/-- The sign stands in front of the other fields. -/
theorem ofBitVec_unpackSign_packComponents (sign : Sign) (exponent : BitVec 11)
    (fraction : BitVec 52) :
    Sign.ofBitVec (@unpackSign Format.binary64
      (packComponents Format.binary64 sign exponent fraction)) = sign := by
  have stored : @unpackSign Format.binary64
      (packComponents Format.binary64 sign exponent fraction) = sign.toBitVec := by
    have whole : (packComponents Format.binary64 sign exponent fraction).toNat =
        (sign.toBitVec.toNat * 2 ^ 11 + exponent.toNat) * 2 ^ 52 + fraction.toNat := by
      rw [← toNat_append, ← toNat_append]
      rfl
    have exponent_lt := exponent.isLt
    have fraction_lt := fraction.isLt
    rw [← BitVec.toNat_inj, toNat_unpackSign, whole, leadingBit]
    omega
  rw [stored]
  cases sign <;> rfl

/-! ### The three kinds of words -/

section Kinds

variable {word : BitVec 64}

/-- Words with the greatest exponent are those of no finite numbers. -/
theorem unpack_full (full : @unpackExponent Format.binary64 word = -1#11) :
    UnpackedFloat.unpack Format.binary64 word =
      if @unpackMantissa Format.binary64 word = 0#52 then
        .infinity (Sign.ofBitVec (@unpackSign Format.binary64 word))
      else .notANumber :=
  if_pos full

/-- Words with the least exponent have no bit that is not stored. -/
theorem unpack_empty (bounded : @unpackExponent Format.binary64 word ≠ -1#11)
    (empty : @unpackExponent Format.binary64 word = 0#11) :
    UnpackedFloat.unpack Format.binary64 word =
      if bare : @unpackMantissa Format.binary64 word = 0#52 then
        .zero (Sign.ofBitVec (@unpackSign Format.binary64 word))
      else .finite (Sign.ofBitVec (@unpackSign Format.binary64 word))
        (@unpackMantissa Format.binary64 word).toNat
        ((@unpackExponent Format.binary64 word).toNat - 1075 + 1)
        (Nat.pos_of_ne_zero (mt (BitVec.eq_of_toNat_eq (y := 0#52)) bare)) :=
  (if_neg bounded).trans (if_pos empty)

theorem unpack_normal (bounded : @unpackExponent Format.binary64 word ≠ -1#11)
    (filled : @unpackExponent Format.binary64 word ≠ 0#11) :
    UnpackedFloat.unpack Format.binary64 word =
      .finite (Sign.ofBitVec (@unpackSign Format.binary64 word))
        (1#1 ++ @unpackMantissa Format.binary64 word).toNat
        ((@unpackExponent Format.binary64 word).toNat - 1075)
        (toNat_leadingBit_append _ ▸ Nat.add_pos_left (by decide) _) :=
  (if_neg bounded).trans (if_neg filled)

end Kinds

/-- **A word is taken apart as the arithmetic takes it apart.** -/
theorem Shape.ofFloat_eq (x : Float) : Shape.ofFloat x = Shape.ofUnpacked x.toModel.unpack := by
  obtain ⟨word, stored⟩ : ∃ word : BitVec 64, x.toModel.toBits.toBitVec = word := ⟨_, rfl⟩
  have bits : x.toBits.toNat = word.toNat := congrArg BitVec.toNat stored
  have unpacked : x.toModel.unpack = UnpackedFloat.unpack Format.binary64 word :=
    congrArg (UnpackedFloat.unpack Format.binary64) stored
  have sign : isNegative (Sign.ofBitVec (@unpackSign Format.binary64 word)) =
      (word.toNat / leadingBit / 0x800 == 1) := by
    rw [isNegative_ofBitVec, toNat_unpackSign]
  rw [unpacked, Shape.ofFloat, bits]
  by_cases full : @unpackExponent Format.binary64 word = -1#11
  · rw [unpack_full full, if_pos ((unpackExponent_eq_ones_iff word).mp full)]
    by_cases bare : @unpackMantissa Format.binary64 word = 0#52
    · rw [if_pos bare, if_pos ((unpackMantissa_eq_zero_iff word).mp bare)]
      exact congrArg Shape.infinite sign.symm
    · rw [if_neg bare, if_neg (mt (unpackMantissa_eq_zero_iff word).mpr bare)]
      rfl
  · rw [if_neg (mt (unpackExponent_eq_ones_iff word).mpr full)]
    by_cases empty : @unpackExponent Format.binary64 word = 0#11
    · rw [unpack_empty full empty, if_pos ((unpackExponent_eq_zero_iff word).mp empty)]
      by_cases bare : @unpackMantissa Format.binary64 word = 0#52
      · rw [dif_pos bare, if_pos ((unpackMantissa_eq_zero_iff word).mp bare)]
        exact congrArg Shape.zero sign.symm
      · rw [dif_neg bare, if_neg (mt (unpackMantissa_eq_zero_iff word).mpr bare)]
        show _ = Shape.finite (isNegative _) _ _
        rw [sign, toNat_unpackMantissa, empty]
        rfl
    · rw [unpack_normal full empty, if_neg (mt (unpackExponent_eq_zero_iff word).mpr empty)]
      show _ = Shape.finite (isNegative _) _ _
      rw [sign, toNat_leadingBit_append, toNat_unpackMantissa, toNat_unpackExponent]

/-! ### Rounding -/

theorem log2_mul_two_pow {number : Nat} (positive : number ≠ 0) (shift : Nat) :
    (number * 2 ^ shift).log2 = number.log2 + shift := by
  induction shift with
  | zero => rw [Nat.pow_zero, Nat.mul_one, Nat.add_zero]
  | succ shift ih =>
    have nonzero : number * 2 ^ shift ≠ 0 := Nat.mul_ne_zero positive (Nat.two_pow_pos shift).ne'
    rw [Nat.pow_succ, ← Nat.mul_assoc, Nat.mul_comm _ 2, Nat.log2_two_mul nonzero, ih,
      Nat.add_assoc]

/-- Shifting zeros out of a significand leaves no rest. -/
theorem shiftRight_exact (significand shift : Nat) :
    ExtendedMantissa.mk (significand * 2 ^ shift) false false >>> shift =
      ⟨significand, false, false⟩ := by
  induction shift generalizing significand with
  | zero =>
    rw [Nat.pow_zero, Nat.mul_one]
    rfl
  | succ shift ih =>
    have first := ih (significand * 2)
    rw [Nat.mul_assoc, ← Nat.pow_succ'] at first
    calc ExtendedMantissa.mk (significand * 2 ^ (shift + 1)) false false >>> (shift + 1)
        = ExtendedMantissa.shiftRightOne
            (ExtendedMantissa.mk (significand * 2 ^ (shift + 1)) false false >>> shift) := rfl
      _ = ExtendedMantissa.shiftRightOne ⟨significand * 2, false, false⟩ := by rw [first]
      _ = ⟨significand, false, false⟩ := by simp [ExtendedMantissa.shiftRightOne]

/-- The exponent at which a number has 53 bits, or the least one. -/
theorem targetExponent_eq (total : Int) :
    Format.binary64.targetExponent total = max (total - 53) (-1074) :=
  rfl

theorem finite_congr {sign : Sign} {significand other : Nat} {exponent power : Int}
    {positive : 0 < significand} {positive' : 0 < other} (significands : significand = other)
    (exponents : exponent = power) :
    UnpackedFloat.finite sign significand exponent positive =
      .finite sign other power positive' := by
  subst significands exponents
  rfl

section Exact

variable {significand : Nat} (full : significand.log2 = 52) {exponent : Int}

include full

theorem shiftToTargetExponent_exact (shift : Nat) (low : -1074 ≤ exponent + shift) :
    shiftToTargetExponent Format.binary64 (significand * 2 ^ shift) exponent .exact =
      (⟨significand, false, false⟩, exponent + shift) := by
  have nonzero : significand ≠ 0 := by
    rintro rfl
    rw [Nat.log2_zero] at full
    cases full
  have target : Format.binary64.targetExponent
      (totalExponent (significand * 2 ^ shift) exponent) = exponent + shift := by
    rw [targetExponent_eq, totalExponent, log2_mul_two_pow nonzero, full]
    omega
  have amount : (exponent + shift - exponent).toNat = shift := by omega
  rw [shiftToTargetExponent, target, shiftToExponent, amount]
  exact congrArg (·, exponent + (shift : Int)) (shiftRight_exact significand shift)

/-- **Rounding drops zeros** at the end of a significand that fits without them. -/
theorem roundWithAccuracy_exact (sign : Sign) (positive : 0 < significand) (shift : Nat)
    (low : -1074 ≤ exponent + shift) :
    roundWithAccuracy Format.binary64 sign (significand * 2 ^ shift) exponent .exact =
      .finite sign significand (exponent + shift) positive := by
  have unshifted : -1074 ≤ exponent + shift + (0 : Nat) := by omega
  have again := shiftToTargetExponent_exact full 0 unshifted
  rw [Nat.pow_zero, Nat.mul_one, Int.natCast_zero, Int.add_zero] at again
  unfold roundWithAccuracy
  rw [shiftToTargetExponent_exact full shift low]
  dsimp only [ExtendedMantissa.roundedMantissa, ExtendedMantissa.accuracy,
    Accuracy.roundToNearestEven]
  rw [again]
  exact dif_neg positive.ne'

theorem pack_exact (sign : Sign) (positive : 0 < significand) (low : -1074 ≤ exponent)
    (high : exponent ≤ 971) :
    UnpackedFloat.pack Format.binary64 (.finite sign significand exponent positive) =
      packComponents Format.binary64 sign (BitVec.ofNat 11 (exponent + 1075).toNat)
        (BitVec.ofNat 52 significand) := by
  have biased : (exponent + Format.binary64.exponentBias + (52 : Nat)).toNat =
      (exponent + 1075).toNat := by
    have bias : ((Format.binary64.exponentBias : Nat) : Int) = 1023 := rfl
    omega
  have bounded : ¬ 2 ^ 11 ≤ (exponent + Format.binary64.exponentBias + (52 : Nat)).toNat + 1 := by
    omega
  have filled : significand.log2 + 1 = Format.binary64.mantissaBits := by
    rw [full]
    rfl
  calc UnpackedFloat.pack Format.binary64 (.finite sign significand exponent positive)
      = packComponents Format.binary64 sign
          (BitVec.ofNat 11 (exponent + Format.binary64.exponentBias + (52 : Nat)).toNat)
          (BitVec.ofNat 52 significand) := (if_neg bounded).trans (if_pos filled)
    _ = _ := by rw [biased]

/-- **A significand that fits is kept in a word.** -/
theorem unpack_pack_exact (sign : Sign) (positive : 0 < significand) (low : -1074 ≤ exponent)
    (high : exponent ≤ 971) :
    (Float.Model.pack (.finite sign significand exponent positive)).unpack =
      .finite sign significand exponent positive := by
  obtain ⟨least, most⟩ := (Nat.log2_eq_iff positive.ne').mp full
  have power : (BitVec.ofNat 11 (exponent + 1075).toNat).toNat = (exponent + 1075).toNat :=
    BitVec.toNat_ofNat .. ▸ Nat.mod_eq_of_lt (by omega)
  have fraction : (1#1 ++ BitVec.ofNat 52 significand).toNat = significand := by
    rw [toNat_leadingBit_append, BitVec.toNat_ofNat, leadingBit]
    omega
  have bounded : BitVec.ofNat 11 (exponent + 1075).toNat ≠ -1#11 := by
    rw [ne_eq, ← BitVec.toNat_inj, power]
    change ¬ _ = 2047
    omega
  have filled : BitVec.ofNat 11 (exponent + 1075).toNat ≠ 0#11 := by
    rw [ne_eq, ← BitVec.toNat_inj, power]
    change ¬ _ = 0
    omega
  change UnpackedFloat.unpack Format.binary64 (UnpackedFloat.pack Format.binary64 _) = _
  rw [pack_exact full sign positive low high,
    unpack_normal (unpackExponent_packComponents ▸ bounded)
      (unpackExponent_packComponents ▸ filled), ofBitVec_unpackSign_packComponents]
  refine finite_congr ?_ ?_
  · rw [unpackMantissa_packComponents, fraction]
  · rw [unpackExponent_packComponents, power]
    omega

end Exact

end Georeference.Decimal
