/-
**The texts of codes, and what becomes of them in a registry.**

A code is written in ASCII digits, with zeros in front of it or none, and it is a word of 32 bits.
What a text denotes is said by the relation `DenotesCode`, apart from the function that reads it.

### Reading

* `readCode_eq_ok_iff`: a text is read as a code exactly when it denotes the code.
* `readCode_of_not_denotes`: any other text is blamed as it is written.
* `DenotesCode.unique`, `DenotesCode.toString`: a text denotes one code at most, and every code is
  denoted by its own text.

### Looking up

* `Registry.crsOfCode_of_denotes`, `Registry.crsOfCode_of_not_denotes`: what is answered to a text.
* `Registry.crsOfCode_eq_error_iff`: the two ways in which a text is refused.
* `Registry.crsOfCode_eq_iff`: two registries answer a text alike exactly when they look up the code
  that it denotes, if it denotes one, as the same entry.

**The proof is that an answer has all of its entry in it.** In one direction the same entry gives
the same answer. In the other, different entries give different systems (`Entry.crs_injective`),
since a system keeps the code, the name and the definition, and no entry gives an error that depends
on the code only. A text that denotes no code never gets as far as the registry, so it is answered
alike by all of them.
-/

import Georeference.Builder
import Georeference.Proofs.Decimal.Integer

namespace Georeference

/-- ASCII digits denote a code that is a word of 32 bits. -/
structure DenotesCode (text : String) (code : Nat) : Prop where
  digits : Decimal.Digits text.toList
  value : Nat.ofDigitChars 10 text.toList 0 = code
  fits : code < UInt32.size

variable {text : String} {code : Nat}

theorem DenotesCode.unique {other : Nat} (denotes : DenotesCode text code)
    (again : DenotesCode text other) : code = other :=
  denotes.value.symm.trans again.value

/-- **A text is read as the code that it denotes**, and not otherwise. -/
theorem readCode_eq_ok_iff : readCode text = .ok code ↔ DenotesCode text code := by
  unfold readCode
  constructor
  · intro read
    cases found : Decimal.natural? text.toList with
    | none =>
      rw [found] at read
      cases read
    | some number =>
      rw [found] at read
      dsimp only at read
      by_cases fits : number < UInt32.size
      · rw [if_pos fits] at read
        obtain rfl : number = code := Except.ok.inj read
        obtain ⟨digits, value⟩ := Decimal.natural?_eq_some_iff.mp found
        exact ⟨digits, value, fits⟩
      · rw [if_neg fits] at read
        cases read
  · intro denotes
    rw [Decimal.natural?_eq_some_iff.mpr ⟨denotes.digits, denotes.value⟩]
    exact if_pos denotes.fits

/-- **A code is denoted by its own text.** -/
theorem DenotesCode.toString (fits : code < UInt32.size) :
    DenotesCode (ToString.toString code) code := by
  constructor
  · rw [Decimal.toList_toString]
    exact Decimal.digits_toDigits code
  · rw [Decimal.toList_toString, Nat.ofDigitChars_ten_toDigits]
  · exact fits

/-- A text that denotes no code is blamed as it is written. -/
theorem readCode_of_not_denotes (undenoted : ∀ code, ¬ DenotesCode text code) :
    readCode text = .error (.codeText text) := by
  cases read : readCode text with
  | ok code => exact absurd (readCode_eq_ok_iff.mp read) (undenoted code)
  | error error =>
    unfold readCode at read
    split at read
    · split at read
      · cases read
      · exact read.symm
    · exact read.symm

/-- No two entries give the same system. -/
theorem Entry.crs_injective : Function.Injective Entry.crs := by
  rintro ⟨code, name, definition⟩ ⟨code', name', definition'⟩ same
  simp only [crs, Crs.mk.injEq, Option.some.injEq] at same
  obtain ⟨rfl, rfl, rfl⟩ := same
  rfl

namespace Registry

variable {registry first second : Registry}

theorem crsOfCode_of_denotes (denotes : DenotesCode text code) :
    registry.crsOfCode text =
      match registry.lookup code with
      | none => .error (.unknownCode code)
      | some entry => .ok entry.crs := by
  rewrite [crsOfCode, readCode_eq_ok_iff.mpr denotes]
  rfl

theorem crsOfCode_of_not_denotes (undenoted : ∀ code, ¬ DenotesCode text code) :
    registry.crsOfCode text = .error (.codeText text) := by
  rw [crsOfCode, readCode_of_not_denotes undenoted]

/-- **The text of a code is refused** for denoting no code, or one that is not known. -/
theorem crsOfCode_eq_error_iff {error : BuildError} :
    registry.crsOfCode text = .error error ↔
      (∀ code, ¬ DenotesCode text code) ∧ error = .codeText text ∨
        ∃ code, DenotesCode text code ∧ registry.lookup code = none ∧
          error = .unknownCode code := by
  by_cases denoted : ∃ code, DenotesCode text code
  · obtain ⟨code, denotes⟩ := denoted
    have denoted : ¬ ∀ code, ¬ DenotesCode text code := fun refused => refused code denotes
    rw [crsOfCode_of_denotes denotes, or_iff_right fun both => denoted both.1]
    constructor
    · intro refused
      cases found : registry.lookup code with
      | none =>
        rw [found] at refused
        exact ⟨code, denotes, found, (Except.error.inj refused).symm⟩
      | some entry =>
        rw [found] at refused
        cases refused
    · rintro ⟨other, again, unknown, rfl⟩
      obtain rfl := denotes.unique again
      rw [unknown]
  · have undenoted := not_exists.mp denoted
    rw [crsOfCode_of_not_denotes undenoted, or_iff_left fun ⟨code, denotes, _⟩ =>
      undenoted code denotes, Except.error.injEq, and_iff_right undenoted, eq_comm]

/-- **Two registries answer alike** when they look up the denoted code alike. -/
theorem crsOfCode_eq_iff :
    first.crsOfCode text = second.crsOfCode text ↔
      ∀ code, DenotesCode text code → first.lookup code = second.lookup code := by
  by_cases denoted : ∃ code, DenotesCode text code
  · obtain ⟨code, denotes⟩ := denoted
    rw [crsOfCode_of_denotes denotes, crsOfCode_of_denotes denotes]
    constructor
    · intro same other again
      obtain rfl := denotes.unique again
      cases here : first.lookup code with
      | none =>
        cases there : second.lookup code with
        | none => rfl
        | some entry =>
          rw [here, there] at same
          cases same
      | some entry =>
        cases there : second.lookup code with
        | none =>
          rw [here, there] at same
          cases same
        | some other =>
          rw [here, there] at same
          exact congrArg some (Entry.crs_injective (Except.ok.inj same))
    · intro same
      rw [same code denotes]
  · have undenoted := not_exists.mp denoted
    rw [crsOfCode_of_not_denotes undenoted, crsOfCode_of_not_denotes undenoted]
    exact iff_of_true rfl fun code denotes => absurd denotes (undenoted code)

end Registry

end Georeference
