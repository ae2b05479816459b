/-
**Reports in JSON form take one line each.**

A string is written with escapes for the control characters in it, the line feed among them, and
what is written for other values is made of digits and marks. So whatever a report holds, it is
written on a single line.

### Strings and numbers

* `Json.notMem_escaped`, `Json.singleLine_quoted`: strings, whatever is in them.
* `Decimal.singleLine_of_pointedText?`, `Json.singleLine_number`: numbers, in digits or with an
  exponent.

### Values that are put together

* `Json.singleLine_array`, `Json.singleLine_object`: arrays and objects, as far as their elements
  and members are of a single line.
* `BoundingBox.singleLine_json`, `Report.singleLine_json`: boxes and reports.

**The proof follows the writer.** Every mark that it writes is decided. A character is written as
itself, as an escape of one letter, or as `u` and four hexadecimal digits; the line feed has an
escape of one letter, so a character that is written as itself is another one, and the digits of the
fourth form are not line feeds either. A number is digits with a point among them or with an
exponent behind them, and all of these come from the digits of a natural number. A report is an
object with ten members and two more that may be left out, and each of their values is of one of
these kinds.
-/

import Georeference.Proofs.Text.Lines
import Georeference.Report

namespace Georeference

open Text (SingleLine)

/-! ### Decimal numbers -/

namespace Decimal

variable {chars : List Char} {numeral : Numeral} {x : Float} {text : String}

/-- Digits have no line feed among them. -/
theorem notMem_of_isDigit (digits : ∀ c ∈ chars, c.isDigit = true) : '\n' ∉ chars :=
  fun inside => absurd (digits '\n' inside) (by decide)

theorem isDigit_of_mem_positional {c : Char}
    (member : c ∈ (positional numeral).1 ∨ c ∈ (positional numeral).2) : c.isDigit = true := by
  have digits := (digits_toDigits numeral.significand).2
  have zeros : ∀ count, c ∈ List.replicate count '0' → c.isDigit = true :=
    fun _ => isDigit_of_mem_replicate
  dsimp only [positional] at member
  split at member
  · rcases member with whole | fraction
    · exact (List.mem_append.mp whole).elim (digits c) (zeros _)
    · cases fraction
  · split at member
    · rcases member with zero | fraction
      · exact zeros 1 zero
      · exact (List.mem_append.mp fraction).elim (zeros _) (digits c)
    · rcases member with whole | fraction
      · exact digits c (List.mem_of_mem_take whole)
      · exact digits c (List.mem_of_mem_drop fraction)

theorem notMem_signText (negative : Bool) : '\n' ∉ signText negative := by
  cases negative <;> decide

theorem notMem_scientific (numeral : Numeral) : '\n' ∉ scientific numeral := by
  have digits := notMem_of_isDigit (digits_toDigits numeral.significand).2
  have first := mt (List.mem_of_mem_take (i := 1)) digits
  have fraction := mt (List.mem_of_mem_drop (i := 1)) digits
  have power := SingleLine.toString_int
    (numeral.exponent + ((Nat.toDigits 10 numeral.significand).length - 1 : Nat))
  unfold scientific
  dsimp only
  simp only [List.mem_append, List.mem_cons, not_or]
  refine ⟨⟨first, ?_⟩, by decide, power⟩
  split
  · exact List.not_mem_nil
  · exact List.not_mem_cons_of_ne_of_not_mem (by decide) fraction

theorem notMem_positional (numeral : Numeral) :
    '\n' ∉ (positional numeral).1 ∧ '\n' ∉ (positional numeral).2 :=
  ⟨notMem_of_isDigit fun _ member => isDigit_of_mem_positional (.inl member),
    notMem_of_isDigit fun _ member => isDigit_of_mem_positional (.inr member)⟩

/-- **A number is written on a single line**, with an exponent or without one. -/
theorem singleLine_of_pointedText? (written : pointedText? x = some text) : SingleLine text := by
  unfold pointedText? at written
  split at written
  · cases written
  · cases written
  · rename_i negative shape
    obtain rfl := Option.some.inj written
    exact .ofList (List.not_mem_append (notMem_signText negative) (by decide))
  · rename_i negative significand exponent shape
    obtain rfl := Option.some.inj written
    refine .ofList (List.not_mem_append (notMem_signText negative) ?_)
    split
    · obtain ⟨whole, fraction⟩ := notMem_positional (shortest .toEven significand exponent)
      refine List.not_mem_append whole (List.not_mem_cons_of_ne_of_not_mem (by decide) ?_)
      split
      · decide
      · exact fraction
    · exact notMem_scientific _

end Decimal

/-! ### Values -/

namespace Json

theorem notMem_escaped (c : Char) : '\n' ∉ escaped c := by
  have digits : ∀ digit < 16, '\n' ≠ Nat.digitChar digit := by decide
  unfold escaped
  split
  any_goals decide
  rename_i unbroken unreturned untabbed
  dsimp only
  split
  · decide
  · split
    · decide
    · split
      · rename_i control
        have high := digits (c.toNat / 16) (by omega)
        have low := digits (c.toNat % 16) (by omega)
        simp [high, low]
      · rw [List.mem_singleton]
        exact fun same => unbroken same.symm

/-- **A string is written on a single line**, whatever it holds. -/
theorem singleLine_quoted (text : String) : SingleLine (quoted text) := by
  refine SingleLine.ofList ?_
  simp [notMem_escaped]

theorem singleLine_orNull {α : Type} {write : α → String} (single : ∀ x, SingleLine (write x))
    (value : Option α) : SingleLine (orNull write value) := by
  cases value with
  | none => exact (by decide : SingleLine "null")
  | some x => exact single x

theorem singleLine_number (x : Float) : SingleLine (number x) := by
  unfold number
  cases written : Decimal.pointedText? x with
  | none => exact (by decide : SingleLine "null")
  | some text => exact Decimal.singleLine_of_pointedText? written

theorem singleLine_array {values : List String} (single : ∀ value ∈ values, SingleLine value) :
    SingleLine (array values) :=
  ((by decide : SingleLine "[").append (.intercalate (by decide) single)).append (by decide)

theorem singleLine_object {members : List (String × String)}
    (single : ∀ member ∈ members, SingleLine member.2) : SingleLine (object members) := by
  refine ((by decide : SingleLine "\x7b").append (.intercalate (by decide) ?_)).append (by decide)
  intro written listed
  obtain ⟨member, inside, rfl⟩ := List.mem_map.mp listed
  exact ((singleLine_quoted member.1).append (by decide)).append (single member inside)

end Json

theorem BoundingBox.singleLine_json (box : BoundingBox) : SingleLine box.json := by
  refine Json.singleLine_object fun member listed => ?_
  simp only [List.mem_cons, List.not_mem_nil, or_false] at listed
  rcases listed with rfl | rfl | rfl | rfl <;> exact Json.singleLine_number _

namespace Report

theorem singleLine_of_mem_optionalMember {name : String} {value : Option String}
    (single : ∀ written, value = some written → SingleLine written) {member : String × String}
    (listed : member ∈ optionalMember name value) : SingleLine member.2 := by
  cases value with
  | none => cases listed
  | some written =>
    obtain rfl := List.mem_singleton.mp listed
    exact single written rfl

/-- **A report in JSON form is written on a single line**, whatever it holds. -/
theorem singleLine_json (report : Report) : SingleLine report.json := by
  refine Json.singleLine_object fun member listed => ?_
  rcases List.mem_append.mp listed with listed | images
  · rcases List.mem_append.mp listed with fields | count
    · simp only [List.mem_cons, List.not_mem_nil, or_false] at fields
      rcases fields with rfl | rfl | rfl | rfl | rfl | rfl | rfl | rfl | rfl | rfl
      · exact Json.singleLine_quoted _
      · exact Json.singleLine_quoted _
      · exact Json.singleLine_orNull SingleLine.toString_nat _
      · exact Json.singleLine_orNull Json.singleLine_quoted _
      · exact Json.singleLine_quoted _
      · exact Json.singleLine_orNull Json.singleLine_quoted _
      · exact Json.singleLine_orNull Json.singleLine_quoted _
      · cases report.geographic <;> decide
      · refine Json.singleLine_orNull (fun zone => ?_) _
        exact Json.singleLine_quoted zone.text
      · exact Json.singleLine_orNull BoundingBox.singleLine_json _
    · refine singleLine_of_mem_optionalMember (fun written known => ?_) count
      obtain ⟨points, -, rfl⟩ := Option.map_eq_some_iff.mp known
      exact SingleLine.toString_nat points
  · refine singleLine_of_mem_optionalMember (fun written known => ?_) images
    obtain ⟨names, -, rfl⟩ := Option.map_eq_some_iff.mp known
    refine Json.singleLine_array fun name inside => ?_
    obtain ⟨image, -, rfl⟩ := List.mem_map.mp inside
    exact Json.singleLine_quoted image

end Report

end Georeference
