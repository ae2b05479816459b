/-
**Hexadecimal digits.**

* `hexValue?`: the value of a digit, letters in either case.
* `hexDigits`: the digits of a number, letters in lower case.
-/

namespace Georeference.Text

def hexValue? (c : Char) : Option Nat :=
  if '0' ≤ c && c ≤ '9' then some (c.toNat - 0x30)
  else if 'a' ≤ c && c ≤ 'f' then some (c.toNat - 0x61 + 10)
  else if 'A' ≤ c && c ≤ 'F' then some (c.toNat - 0x41 + 10)
  else none

/-- The digits of a number to the base sixteen. -/
def hexDigits (value : Nat) : List Char := Nat.toDigits 16 value

/-- A digit of a base up to sixteen is read as its value. -/
theorem hexValue?_digitChar {value : Nat} (small : value < 16) :
    hexValue? value.digitChar = some value := by
  have all : ∀ digit < 16, hexValue? (Nat.digitChar digit) = some digit := by decide
  exact all value small

end Georeference.Text
