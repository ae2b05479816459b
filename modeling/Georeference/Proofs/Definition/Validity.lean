/-
**Valid definitions, and those of zones.**

A definition is valid when it can be written and read again and its projection allows it.

### Reading and checking

* `Definition.readValid_eq_ok_iff`: reading and checking is reading, and checking what was read.
* `Definition.valid_of_readValid`, `Definition.readValid_text`: what is read and checked is valid,
  and what is valid is read back from its text.

### Definitions of zones

`Definition.ofZone` is the definition of a zone on the WGS 84 datum: its number as it is written,
and every switch that it needs set in one of two ways (`Definition.SetSwitch`).

* `Definition.ofZone_wellFormed`: it is well formed when the number has no blank character.
* `Definition.validate_ofZone`: it is valid when the number is one of a zone, and the number is
  blamed otherwise.
* `Definition.ofZone_equivalent`: how its switches are set makes no difference.

**The proof is by the parameters that a zone can have.** There are five of them on the northern
hemisphere and one more on the southern (`mem_ofZone`). Their keys are fixed, and so are their
values apart from the number and the switches. What is asked of a parameter is asked of each of
these once, and the two ways to set a switch are looked at in `SetSwitch.isSetFlag` and
`SetSwitch.shown` only.
-/

import Georeference.Definition.Validity
import Georeference.Proofs.Decimal.Integer
import Georeference.Proofs.Definition.Equivalence
import Georeference.Proofs.Definition.RoundTrip

namespace Georeference

namespace Definition

/-! ### Reading and checking together -/

/-- A definition that can be read back, and that its projection allows. -/
structure Valid (definition : Definition) : Prop where
  wellFormed : definition.WellFormed
  allowed : definition.validate = .ok ()

instance (definition : Definition) : Decidable definition.Valid :=
  decidable_of_iff (definition.WellFormed ∧ definition.validate = .ok ())
    ⟨fun ⟨wellFormed, allowed⟩ => ⟨wellFormed, allowed⟩,
      fun ⟨wellFormed, allowed⟩ => ⟨wellFormed, allowed⟩⟩

/-- Reading and checking is reading, and checking what was read. -/
theorem readValid_eq_ok_iff {text : String} {definition : Definition} :
    readValid text = .ok definition ↔
      read text = .ok definition ∧ definition.validate = .ok () := by
  unfold readValid
  cases read text with
  | error fault => simp
  | ok found =>
    cases allowed : found.validate with
    | error fault =>
      refine iff_of_false (by simp [allowed]) ?_
      rintro ⟨same, passes⟩
      rw [← Except.ok.inj same, allowed] at passes
      cases passes
    | ok passed =>
      simp only [allowed, Except.ok.injEq]
      refine ⟨fun same => ⟨same, ?_⟩, fun both => both.1⟩
      rw [← same, allowed]

theorem valid_of_readValid {text : String} {definition : Definition}
    (success : readValid text = .ok definition) : definition.Valid := by
  obtain ⟨found, allowed⟩ := readValid_eq_ok_iff.mp success
  exact ⟨(read_eq_ok_iff.mp found).2, allowed⟩

theorem readValid_of_wellFormed {definition : Definition} (wellFormed : definition.WellFormed) :
    readValid definition.text =
      match definition.validate with
      | .error fault => .error fault
      | .ok () => .ok definition := by
  rewrite [readValid, read_text wellFormed]
  rfl

/-- **A valid definition is read back from its text.** -/
theorem readValid_text {definition : Definition} (valid : definition.Valid) :
    readValid definition.text = .ok definition := by
  rw [readValid_of_wellFormed valid.wellFormed, valid.allowed]

/-! ### Definitions of zones -/

/-- The definition of a zone on the WGS 84 datum. -/
def ofZone (numeral : String) (set : Option String) (hemisphere : Hemisphere) : Definition :=
  let common := [.assign "proj" "utm", .assign "zone" numeral, .assign "datum" "WGS84",
    .assign "units" "m", ⟨"no_defs", set⟩]
  match hemisphere with
  | .north => ⟨common⟩
  | .south => ⟨common ++ [⟨"south", set⟩]⟩

/-- The two ways in which the switches of a zone are set. -/
def SetSwitch (set : Option String) : Prop :=
  set = none ∨ set = some "True"

variable {numeral : String} {set : Option String} {hemisphere : Hemisphere}

theorem projection_ofZone : (ofZone numeral set hemisphere).projection = "utm" := by
  cases hemisphere <;> rfl

theorem get?_zone_ofZone : (ofZone numeral set hemisphere).get? "zone" = some numeral := by
  cases hemisphere <;> rfl

theorem get?_datum_ofZone : (ofZone numeral set hemisphere).get? "datum" = some "WGS84" := by
  cases hemisphere <;> rfl

theorem get?_units_ofZone : (ofZone numeral set hemisphere).get? "units" = some "m" := by
  cases hemisphere <;> rfl

/-- The definition of a zone as it is written. -/
theorem toList_text_ofZone :
    (ofZone numeral set hemisphere).text.toList =
      "+proj=utm +zone=".toList ++ numeral.toList ++ " +datum=WGS84 +units=m ".toList ++
        (Parameter.text ⟨"no_defs", set⟩).toList ++
          match hemisphere with
          | .north => []
          | .south => ' ' :: (Parameter.text ⟨"south", set⟩).toList := by
  rw [toList_text]
  cases hemisphere with
  | north => simp [ofZone, Parameter.toList_text, Parameter.assign]
  | south => simp [ofZone, Parameter.toList_text, Parameter.assign]

theorem SetSwitch.isSetFlag (switch : SetSwitch set) (key : String) :
    Parameter.isSetFlag ⟨key, set⟩ = true := by
  rcases switch with rfl | rfl
  · rfl
  · rfl

theorem hemisphere_ofZone (switch : SetSwitch set) :
    (ofZone numeral set hemisphere).hemisphere = hemisphere := by
  unfold Definition.hemisphere hasFlag
  cases hemisphere with
  | north => rfl
  | south => simp [ofZone, switch.isSetFlag]

theorem SetSwitch.shown (switch : SetSwitch set) {key : String}
    (shown : key.toList.any Text.isBlank = false) :
    ∀ c ∈ (Parameter.text ⟨key, set⟩).toList, Text.isBlank c = false := by
  intro c member
  rw [Parameter.toList_text, List.mem_cons, List.mem_append] at member
  rcases member with rfl | inKey | inValue
  · rfl
  · exact Text.any_isBlank_eq_false_iff.mp shown c inKey
  · rcases switch with rfl | rfl
    · cases inValue
    · have free : ('=' :: "True".toList).any Text.isBlank = false := rfl
      exact Text.any_isBlank_eq_false_iff.mp free c inValue

theorem shown_zone (shown : ∀ c ∈ numeral.toList, Text.isBlank c = false) :
    ∀ c ∈ (Parameter.assign "zone" numeral).text.toList, Text.isBlank c = false := by
  intro c member
  rw [Parameter.toList_text, List.mem_cons, List.mem_append] at member
  rcases member with rfl | inKey | inValue
  · rfl
  · have free : "zone".toList.any Text.isBlank = false := rfl
    exact Text.any_isBlank_eq_false_iff.mp free c inKey
  · rcases List.mem_cons.mp inValue with rfl | inside
    · rfl
    · exact shown c inside

theorem mem_ofZone {parameter : Parameter}
    (member : parameter ∈ (ofZone numeral set hemisphere).parameters) :
    parameter ∈ [.assign "proj" "utm", .assign "zone" numeral, .assign "datum" "WGS84",
      .assign "units" "m", ⟨"no_defs", set⟩, ⟨"south", set⟩] := by
  cases hemisphere with
  | north => exact List.mem_append_left [_] member
  | south => exact member

/-- **The definition of a zone is well formed** if its number has nothing blank. -/
theorem ofZone_wellFormed (shown : ∀ c ∈ numeral.toList, Text.isBlank c = false)
    (switch : SetSwitch set) : (ofZone numeral set hemisphere).WellFormed where
  named := by
    cases hemisphere <;> simp [ofZone, Parameter.assign]
  unassigned := by
    cases hemisphere <;> simp [ofZone, Parameter.assign]
  shown parameter member := by
    have either := mem_ofZone member
    simp only [List.mem_cons, List.not_mem_nil, or_false] at either
    rcases either with rfl | rfl | rfl | rfl | rfl | rfl
    · exact Text.any_isBlank_eq_false_iff.mp rfl
    · exact shown_zone shown
    · exact Text.any_isBlank_eq_false_iff.mp rfl
    · exact Text.any_isBlank_eq_false_iff.mp rfl
    · exact switch.shown (by decide)
    · exact switch.shown (by decide)
  distinct := by
    cases hemisphere <;> simp [ofZone, Parameter.assign]
  projected := by
    rw [projection_ofZone]
    decide

theorem zoneNumber?_ofZone :
    (ofZone numeral set hemisphere).zoneNumber? =
      Decimal.boundedInteger? UInt64.size numeral.toList := by
  rw [zoneNumber?, get?_zone_ofZone]
  rfl

theorem isProjectionName_utm : isProjectionName "utm" = true := by
  decide

/-- **A zone is allowed** when its number is one of a zone. -/
theorem validate_ofZone {number : Int}
    (read : Decimal.boundedInteger? UInt64.size numeral.toList = some number) :
    (ofZone numeral set hemisphere).validate =
      if 1 ≤ number ∧ number ≤ 60 then .ok () else .error (.zone numeral) := by
  rw [validate, projection_ofZone, isProjectionName_utm, validateZone, get?_zone_ofZone,
    zoneNumber?_ofZone, read]
  by_cases inside : 1 ≤ number ∧ number ≤ 60
  · simp [inside, UtmZone.ofNumber?]
  · simp [inside, UtmZone.ofNumber?]

/-- **How the switches of a zone are set makes no difference.** -/
theorem ofZone_equivalent {other : Option String} (first : SetSwitch set)
    (second : SetSwitch other) :
    (ofZone numeral set hemisphere).equivalent (ofZone numeral other hemisphere) = true := by
  have same : ∀ key, Parameter.comparable ⟨key, set⟩ = Parameter.comparable ⟨key, other⟩ := by
    intro key
    simp only [Parameter.comparable, Parameter.comparableValue, first.isSetFlag,
      second.isSetFlag, if_true]
  refine equivalent_of_perm (List.Perm.of_eq ?_)
  cases hemisphere <;> simp [ofZone, same]

end Definition

end Georeference
