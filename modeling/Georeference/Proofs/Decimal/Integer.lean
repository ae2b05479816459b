/-
**The numbers that numerals denote.**

A numeral is one or more ASCII digits behind an optional sign. What it denotes is said by the
relation `Denotes`, apart from the functions that read it.

### Reading

* `natural?_eq_some_iff`, `integer?_eq_some_iff`, `boundedInteger?_eq_some_iff`: a text is read as a
  number exactly when it denotes that number, within the range that is asked for.

### Digits

* `Denotes.append_digit`: one more digit at the end gives a number that is ten times as large.
* `Digits.zeros_append`, `ofDigitChars_zeros_append`: zeros in front are digits and add nothing.
* `Denotes.toString`: every integer is denoted by its own text.

### The number in front of a text

`Leads` says that a text begins with the numeral of a number and goes on without a digit. There is
one such number (`Leads.unique`), so a text that is a numeral as a whole begins with no other.

**The proof is by the sign.** A numeral is bare digits, or such digits behind a plus or a minus
sign, and each way of reading has these three cases as well. In each of them the digits are the
library's `Nat.ofDigitChars`, and whatever is said of digits is said of that function: a digit
behind the others adds its value to ten times theirs. Of two numerals in front of one text neither
goes on where the other one ends, since no digit stands there, so they are equally long.
-/

import Georeference.Decimal.Integer
import Georeference.Text.Blank

namespace Georeference.Decimal

/-- One or more ASCII digits. -/
def Digits (text : List Char) : Prop :=
  text ≠ [] ∧ ∀ c ∈ text, c.isDigit = true

/-- The number that digits behind an optional sign denote. -/
inductive Denotes : List Char → Int → Prop
  | bare {digits : List Char} (shape : Digits digits) :
      Denotes digits (Nat.ofDigitChars 10 digits 0 : Nat)
  | plus {digits : List Char} (shape : Digits digits) :
      Denotes ('+' :: digits) (Nat.ofDigitChars 10 digits 0 : Nat)
  | minus {digits : List Char} (shape : Digits digits) :
      Denotes ('-' :: digits) (-(Nat.ofDigitChars 10 digits 0 : Nat))

/-! ### Reading -/

/-- **Digits are read as the number that they denote**, and nothing else is. -/
theorem natural?_eq_some_iff {text : List Char} {value : Nat} :
    natural? text = some value ↔ Digits text ∧ Nat.ofDigitChars 10 text 0 = value := by
  unfold natural? Digits
  rw [Option.ite_none_right_eq_some, Option.some.injEq, Bool.and_eq_true, List.all_eq_true,
    Bool.not_eq_true', List.isEmpty_eq_false_iff]

theorem Digits.isDigit_head {first : Char} {rest : List Char} (digits : Digits (first :: rest)) :
    first.isDigit = true :=
  digits.2 first List.mem_cons_self

theorem integer?_of_digits {digits : List Char} (shape : Digits digits) :
    integer? digits = some ((Nat.ofDigitChars 10 digits 0 : Nat) : Int) := by
  unfold integer?
  split
  · exact absurd shape.isDigit_head (by decide)
  · exact absurd shape.isDigit_head (by decide)
  · rw [natural?_eq_some_iff.mpr ⟨shape, rfl⟩]
    rfl

/-- **Numerals are read as the number that they denote**, and nothing else is. -/
theorem integer?_eq_some_iff {text : List Char} {value : Int} :
    integer? text = some value ↔ Denotes text value := by
  constructor
  · intro read
    unfold integer? at read
    split at read
    all_goals
      obtain ⟨size, found, rfl⟩ := Option.map_eq_some_iff.mp read
      obtain ⟨shape, rfl⟩ := natural?_eq_some_iff.mp found
    · exact .plus shape
    · exact .minus shape
    · exact .bare shape
  · intro denotes
    cases denotes with
    | bare shape => exact integer?_of_digits shape
    | plus shape =>
      rw [integer?, natural?_eq_some_iff.mpr ⟨shape, rfl⟩]
      rfl
    | minus shape =>
      rw [integer?, natural?_eq_some_iff.mpr ⟨shape, rfl⟩]
      rfl

/-- Numerals that fit into a signed word are read as what they denote. -/
theorem boundedInteger?_eq_some_iff {size : Nat} {text : List Char} {value : Int} :
    boundedInteger? size text = some value ↔
      Denotes text value ∧ -((size / 2 : Nat) : Int) ≤ value ∧ value < (size / 2 : Nat) := by
  rw [boundedInteger?, Option.filter_eq_some_iff, integer?_eq_some_iff, Bool.and_eq_true,
    decide_eq_true_eq, decide_eq_true_eq]

theorem half_word : ((UInt32.size / 2 : Nat) : Int) = 2147483648 := by
  decide

theorem half_long : ((UInt64.size / 2 : Nat) : Int) = 9223372036854775808 := by
  decide

/-! ### One more digit -/

theorem Digits.append_digit {digits : List Char} (shape : Digits digits) {digit : Char}
    (last : digit.isDigit = true) : Digits (digits ++ [digit]) := by
  refine ⟨List.append_ne_nil_of_right_ne_nil _ (List.cons_ne_nil _ _), ?_⟩
  intro c member
  rcases List.mem_append.mp member with earlier | same
  · exact shape.2 c earlier
  · rw [List.mem_singleton.mp same]
    exact last

theorem ofDigitChars_append_digit (digits : List Char) (digit : Char) :
    Nat.ofDigitChars 10 (digits ++ [digit]) 0 =
      10 * Nat.ofDigitChars 10 digits 0 + (digit.toNat - '0'.toNat) := by
  rw [Nat.ofDigitChars_append, Nat.ofDigitChars_cons, Nat.ofDigitChars_nil]

theorem digit_lt_ten {digit : Char} (shape : digit.isDigit = true) :
    digit.toNat - '0'.toNat < 10 := by
  have bounds := Char.isDigit_iff_toNat.mp shape
  have nine : '9'.toNat = 57 := rfl
  have zero : '0'.toNat = 48 := rfl
  omega

/-- Without the digit behind them, digits are worth a tenth. -/
theorem tdiv_ten_append_digit (digits : List Char) {digit : Char} (last : digit.isDigit = true) :
    ((Nat.ofDigitChars 10 (digits ++ [digit]) 0 : Nat) : Int).tdiv 10 =
      (Nat.ofDigitChars 10 digits 0 : Nat) := by
  have small := digit_lt_ten last
  rw [ofDigitChars_append_digit, show (10 : Int) = ((10 : Nat) : Int) from rfl, ← Int.ofNat_tdiv]
  omega

theorem digits_toDigits (value : Nat) : Digits (Nat.toDigits 10 value) :=
  ⟨Nat.toDigits_ne_nil, fun _ member =>
    Nat.isDigit_of_mem_toDigits (by decide) (by decide) member⟩

/-- The text of a natural number is its digits. -/
theorem toList_toString (value : Nat) : (toString value).toList = Nat.toDigits 10 value := by
  rw [Nat.toString_eq_repr, Nat.toList_repr]

theorem isDigit_of_mem_replicate {zeros : Nat} {c : Char}
    (member : c ∈ List.replicate zeros '0') : c.isDigit = true := by
  rw [List.eq_of_mem_replicate member]
  rfl

/-- **Zeros in front of digits** are digits too, and change nothing. -/
theorem Digits.zeros_append {digits : List Char} (shape : Digits digits) (zeros : Nat) :
    Digits (List.replicate zeros '0' ++ digits) := by
  refine ⟨List.append_ne_nil_of_right_ne_nil _ shape.1, ?_⟩
  intro c member
  rcases List.mem_append.mp member with zero | digit
  · exact isDigit_of_mem_replicate zero
  · exact shape.2 c digit

theorem ofDigitChars_zeros_append (zeros : Nat) (digits : List Char) :
    Nat.ofDigitChars 10 (List.replicate zeros '0' ++ digits) 0 = Nat.ofDigitChars 10 digits 0 := by
  rw [Nat.ofDigitChars_append, Nat.ofDigitChars_replicate_zero, Nat.mul_zero]

theorem natural?_zeros_append (zeros value : Nat) :
    natural? (List.replicate zeros '0' ++ Nat.toDigits 10 value) = some value := by
  rw [natural?_eq_some_iff, ofDigitChars_zeros_append, Nat.ofDigitChars_ten_toDigits]
  exact ⟨(digits_toDigits value).zeros_append zeros, rfl⟩

/-! ### What numerals denote -/

namespace Denotes

variable {text : List Char} {value other : Int}

theorem unique (denotes : Denotes text value) (again : Denotes text other) : value = other := by
  have read := integer?_eq_some_iff.mpr denotes
  rw [integer?_eq_some_iff.mpr again] at read
  exact (Option.some.inj read).symm

theorem ne_nil (denotes : Denotes text value) : text ≠ [] := by
  cases denotes with
  | bare shape => exact shape.1
  | plus shape => exact List.cons_ne_nil _ _
  | minus shape => exact List.cons_ne_nil _ _

/-- Only the first character of a numeral can be its sign. -/
theorem isDigit_of_mem_tail (denotes : Denotes text value) :
    ∀ c ∈ text.tail, c.isDigit = true := by
  intro c member
  cases denotes with
  | bare shape => exact shape.2 c (List.mem_of_mem_tail member)
  | plus shape => exact shape.2 c member
  | minus shape => exact shape.2 c member

theorem of_digits {digits : List Char} (denotes : Denotes digits value)
    (shape : Digits digits) : value = (Nat.ofDigitChars 10 digits 0 : Nat) :=
  denotes.unique (.bare shape)

theorem isDigit_or_sign (denotes : Denotes text value) :
    ∀ c ∈ text, c.isDigit = true ∨ c = '+' ∨ c = '-' := by
  intro c member
  cases denotes with
  | bare shape => exact Or.inl (shape.2 c member)
  | plus shape =>
    rcases List.mem_cons.mp member with sign | digit
    · exact Or.inr (Or.inl sign)
    · exact Or.inl (shape.2 c digit)
  | minus shape =>
    rcases List.mem_cons.mp member with sign | digit
    · exact Or.inr (Or.inr sign)
    · exact Or.inl (shape.2 c digit)

theorem shown_of_isDigit {c : Char} (digit : c.isDigit = true) : Text.isBlank c = false := by
  have bounds := Char.isDigit_iff_toNat.mp digit
  have nine : '9'.toNat = 57 := rfl
  have zero : '0'.toNat = 48 := rfl
  unfold Text.isBlank
  simp only [Bool.or_eq_false_iff, Bool.and_eq_false_iff, decide_eq_false_iff_not,
    beq_eq_false_iff_ne]
  omega

theorem shown (denotes : Denotes text value) : ∀ c ∈ text, Text.isBlank c = false := by
  intro c member
  rcases denotes.isDigit_or_sign c member with digit | rfl | rfl
  · exact shown_of_isDigit digit
  · rfl
  · rfl

/-- Without its last digit, **a numeral denotes a tenth**, rounded towards zero. -/
theorem append_digit (denotes : Denotes text value) {digit : Char} (last : digit.isDigit = true) :
    ∃ whole, Denotes (text ++ [digit]) whole ∧ whole.tdiv 10 = value := by
  cases denotes with
  | bare shape => exact ⟨_, .bare (shape.append_digit last), tdiv_ten_append_digit _ last⟩
  | plus shape => exact ⟨_, .plus (shape.append_digit last), tdiv_ten_append_digit _ last⟩
  | minus shape =>
    refine ⟨_, .minus (shape.append_digit last), ?_⟩
    rw [Int.neg_tdiv]
    exact congrArg Neg.neg (tdiv_ten_append_digit _ last)

/-- **Every integer is denoted by its own text.** -/
theorem toString (value : Int) : Denotes (ToString.toString value).toList value := by
  rw [Int.toString_eq_repr, Int.repr_eq_if]
  by_cases positive : 0 ≤ value
  · have denotes := Denotes.bare (digits_toDigits value.toNat)
    rw [Nat.ofDigitChars_ten_toDigits, Int.toNat_of_nonneg positive] at denotes
    rwa [if_pos positive, Nat.toList_repr]
  · have denotes := Denotes.minus (digits_toDigits (-value).toNat)
    rw [Nat.ofDigitChars_ten_toDigits, Int.toNat_of_nonneg (by omega), Int.neg_neg] at denotes
    rwa [if_neg positive, String.toList_append, Nat.toList_repr]

end Denotes

/-! ### The number in front of a text -/

/-- A text begins with the numeral of a number and goes on without a digit. -/
def Leads (text : List Char) (value : Int) : Prop :=
  ∃ numeral rest, text = numeral ++ rest ∧ Denotes numeral value ∧
    ∀ c ∈ rest.head?, c.isDigit = false

/-- A numeral goes on as far as there are digits. -/
theorem Denotes.eq_nil_of_append {numeral more rest : List Char} {value other : Int}
    (denotes : Denotes numeral value) (longer : Denotes (numeral ++ more) other)
    (stops : ∀ c ∈ (more ++ rest).head?, c.isDigit = false) : more = [] := by
  cases more with
  | nil => rfl
  | cons c later =>
    have member : c ∈ (numeral ++ c :: later).tail := by
      rw [List.tail_append_of_ne_nil denotes.ne_nil]
      exact List.mem_append_right _ List.mem_cons_self
    have digit := longer.isDigit_of_mem_tail c member
    rw [stops c rfl] at digit
    cases digit

theorem Denotes.leads {text : List Char} {value : Int} (denotes : Denotes text value) :
    Leads text value :=
  ⟨text, [], (List.append_nil text).symm, denotes, by simp⟩

/-- **There is one number only in front of a text.** -/
theorem Leads.unique {text : List Char} {value other : Int} (leads : Leads text value)
    (again : Leads text other) : value = other := by
  obtain ⟨first, after, rfl, denotes, stops⟩ := leads
  obtain ⟨second, behind, same, denotes', stops'⟩ := again
  rcases List.append_eq_append_iff.mp same with ⟨more, rfl, rfl⟩ | ⟨more, rfl, rfl⟩
  · have nothing : more = [] := denotes.eq_nil_of_append denotes' stops
    rw [nothing, List.append_nil] at denotes'
    exact denotes.unique denotes'
  · have nothing : more = [] := denotes'.eq_nil_of_append denotes stops'
    rw [nothing, List.append_nil] at denotes
    exact denotes.unique denotes'

theorem Leads.iff_eq {text : List Char} {value other : Int} (leads : Leads text value) :
    Leads text other ↔ other = value := by
  constructor
  · intro again
    exact again.unique leads
  · rintro rfl
    exact leads

/-- **An integer is read back from its text**, within the range of a word. -/
theorem boundedInteger?_toString {size : Nat} {value : Int}
    (fits : -((size / 2 : Nat) : Int) ≤ value ∧ value < (size / 2 : Nat)) :
    boundedInteger? size (toString value).toList = some value :=
  boundedInteger?_eq_some_iff.mpr ⟨Denotes.toString value, fits⟩

/-- What fits into 32 bits is read back as a word of 64. -/
theorem boundedInteger?_long_toString {value : Int}
    (fits : -2147483648 ≤ value ∧ value < 2147483648) :
    boundedInteger? UInt64.size (toString value).toList = some value := by
  refine boundedInteger?_toString ?_
  rw [half_long]
  omega

theorem toString_natCast (value : Nat) : toString (value : Int) = toString value := by
  rw [Int.toString_eq_repr, Int.repr_eq_if, if_pos (Int.natCast_nonneg value), Int.toNat_natCast,
    Nat.toString_eq_repr]

end Georeference.Decimal
