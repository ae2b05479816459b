/-
**What definitions say about a key, as far as comparing goes.**

Keys differ in a definition that was read, so that under each key there is one value to compare or
none, and equivalent definitions have the same to compare under every key.

### One key

* `Definition.compared?`: what there is to compare under a key.
* `Definition.compared?_of_equivalent`: equivalent definitions have the same there.
* `Definition.hasFlag_iff`: a switch is set when there is nothing but its presence to compare.
* `Definition.compared?_of_get?`, `Definition.get?_of_compared?`: a value that is no switch is what
  there is to compare.

### What equivalent definitions agree on

* `Definition.zoneNumber?_of_equivalent`: the number of the zone.
* `Definition.hemisphere_of_equivalent`: the hemisphere.
* `Definition.projection_eq_iff_of_equivalent`: the name of the projection, if that is no switch.

**The proof is that a switch is told apart by its value alone.** A parameter that sets a switch has
nothing to compare but its key, and any other one has its value. So a value that two equivalent
definitions might differ in is one that sets a switch, which is `true` in some case (`Plain` are the
others). No number is: what is read as a number is made of digits and signs, and the letters of
`true` are neither.
-/

import Georeference.Crs
import Georeference.Proofs.Decimal.Integer
import Georeference.Proofs.Definition.Equivalence
import Georeference.Proofs.Text.Search

namespace Georeference

/-! ### Values that are no switches -/

/-- A value that does not set a switch. -/
def Plain (value : String) : Prop :=
  Text.sameIgnoringCase value.toList "true".toList = false

instance (value : String) : Decidable (Plain value) :=
  inferInstanceAs (Decidable (_ = _))

theorem Parameter.comparableValue_of_plain {parameter : Parameter} {value : String}
    (found : parameter.value = some value) (plain : Plain value) :
    parameter.comparableValue = some value := by
  have unset : parameter.isSetFlag = false := by
    rw [isSetFlag, found]
    exact plain
  rw [comparableValue, unset, found]
  rfl

theorem Parameter.value_of_comparableValue {parameter : Parameter} {value : String}
    (compared : parameter.comparableValue = some value) :
    parameter.value = some value ∧ Plain value := by
  unfold comparableValue at compared
  split at compared
  · cases compared
  · rename_i unset
    refine ⟨compared, ?_⟩
    rw [isSetFlag, compared, Bool.not_eq_true] at unset
    exact unset

theorem Parameter.comparableValue_eq_none_iff {parameter : Parameter} :
    parameter.comparableValue = none ↔ parameter.isSetFlag = true := by
  unfold comparableValue isSetFlag
  cases parameter.value with
  | none => simp
  | some value => simp

/-- A number sets no switch. -/
theorem plain_of_boundedInteger? {size : Nat} {value : String} {number : Int}
    (read : Decimal.boundedInteger? size value.toList = some number) : Plain value := by
  have denotes := (Decimal.boundedInteger?_eq_some_iff.mp read).1
  unfold Plain Text.sameIgnoringCase
  rw [beq_eq_false_iff_ne]
  intro spelled
  have letter : 't' ∈ value.toList.map Char.toLower := by
    rw [spelled]
    decide
  obtain ⟨c, member, lower⟩ := List.mem_map.mp letter
  rcases denotes.isDigit_or_sign c member with digit | rfl | rfl
  · rw [Text.toLower_of_isDigit digit] at lower
    rw [lower] at digit
    exact absurd digit (by decide)
  · exact absurd lower (by decide)
  · exact absurd lower (by decide)

namespace Definition

variable {definition first second : Definition} {key value : String}

/-! ### One key -/

/-- What there is to compare under a key, if it is carried. -/
def compared? (definition : Definition) (key : String) : Option (Option String) :=
  (definition.find? key).map Parameter.comparableValue

/-- **Where keys differ**, a parameter is found under its key. -/
theorem find?_eq_some_iff (distinct : (definition.parameters.map Parameter.key).Nodup)
    {parameter : Parameter} :
    definition.find? key = some parameter ↔
      parameter ∈ definition.parameters ∧ parameter.key = key := by
  constructor
  · intro found
    exact ⟨List.mem_of_find?_eq_some found, by simpa using List.find?_some found⟩
  · rintro ⟨member, rfl⟩
    cases found : definition.find? parameter.key with
    | none =>
      have absent := List.find?_eq_none.mp found parameter member
      exact absurd (beq_self_eq_true parameter.key) absent
    | some other =>
      have key : other.key = parameter.key := by simpa using List.find?_some found
      have known := List.mem_of_find?_eq_some found
      rw [List.inj_on_of_nodup_map distinct known member key]

theorem compared?_eq_some_iff (distinct : (definition.parameters.map Parameter.key).Nodup)
    {compared : Option String} :
    definition.compared? key = some compared ↔
      (key, compared) ∈ definition.parameters.map Parameter.comparable := by
  rw [compared?, Option.map_eq_some_iff, List.mem_map]
  simp only [find?_eq_some_iff distinct, Parameter.comparable, Prod.mk.injEq, and_assoc]

theorem keys_perm_of_equivalent (distinct : (first.parameters.map Parameter.key).Nodup)
    (same : first.equivalent second = true) :
    (first.parameters.map Parameter.key).Perm (second.parameters.map Parameter.key) := by
  have keys := ((equivalent_iff_perm distinct).mp same).map Prod.fst
  rw [List.map_map, List.map_map] at keys
  exact keys

/-- **Equivalent definitions** have the same to compare under every key. -/
theorem compared?_of_equivalent (distinct : (first.parameters.map Parameter.key).Nodup)
    (same : first.equivalent second = true) (key : String) :
    first.compared? key = second.compared? key := by
  have rearranged := (equivalent_iff_perm distinct).mp same
  have distinct' := (keys_perm_of_equivalent distinct same).nodup_iff.mp distinct
  ext1 compared
  rw [compared?_eq_some_iff distinct, compared?_eq_some_iff distinct', rearranged.mem_iff]

/-! ### Values and switches -/

theorem compared?_of_get? (found : definition.get? key = some value) (plain : Plain value) :
    definition.compared? key = some (some value) := by
  obtain ⟨parameter, present, has⟩ := Option.bind_eq_some_iff.mp found
  rw [compared?, present, Option.map_some, Parameter.comparableValue_of_plain has plain]

theorem get?_of_compared? (compared : definition.compared? key = some (some value)) :
    definition.get? key = some value := by
  obtain ⟨parameter, present, has⟩ := Option.map_eq_some_iff.mp compared
  rw [get?, present, Option.bind_some, (Parameter.value_of_comparableValue has).1]

/-- A switch is set when there is nothing but its presence to compare. -/
theorem hasFlag_iff (distinct : (definition.parameters.map Parameter.key).Nodup) :
    definition.hasFlag key = true ↔ definition.compared? key = some none := by
  rw [hasFlag, List.any_eq_true, compared?_eq_some_iff distinct, List.mem_map]
  simp only [Bool.and_eq_true, beq_iff_eq, Parameter.comparable, Prod.mk.injEq,
    Parameter.comparableValue_eq_none_iff]

theorem hemisphere_eq_south_iff :
    definition.hemisphere = .south ↔ definition.hasFlag "south" = true := by
  unfold hemisphere
  cases definition.hasFlag "south" with
  | true => simp
  | false => simp

theorem projection_eq_iff (named : value ≠ "") :
    definition.projection = value ↔ definition.get? "proj" = some value := by
  rw [projection]
  cases definition.get? "proj" with
  | none => exact iff_of_false (fun empty => named empty.symm) (by simp)
  | some name => simp

/-! ### Equivalent definitions -/

section Equivalent

variable (distinct : (first.parameters.map Parameter.key).Nodup)
  (same : first.equivalent second = true)

include distinct same

theorem get?_iff_of_equivalent (plain : Plain value) :
    first.get? key = some value ↔ second.get? key = some value := by
  have compared := compared?_of_equivalent distinct same key
  constructor
  · intro found
    exact get?_of_compared? (compared ▸ compared?_of_get? found plain)
  · intro found
    exact get?_of_compared? (compared.trans (compared?_of_get? found plain))

/-- A value that is a number is the same in both. -/
theorem zoneNumber?_of_equivalent : first.zoneNumber? = second.zoneNumber? := by
  ext1 number
  unfold zoneNumber?
  rw [Option.bind_eq_some_iff, Option.bind_eq_some_iff]
  refine exists_congr fun value => and_congr_left fun read => ?_
  exact get?_iff_of_equivalent distinct same (plain_of_boundedInteger? read)

theorem hemisphere_of_equivalent : first.hemisphere = second.hemisphere := by
  have distinct' := (keys_perm_of_equivalent distinct same).nodup_iff.mp distinct
  have south : first.hasFlag "south" = second.hasFlag "south" := by
    rw [Bool.eq_iff_iff, hasFlag_iff distinct, hasFlag_iff distinct',
      compared?_of_equivalent distinct same]
  rw [hemisphere, hemisphere, south]

theorem projection_eq_iff_of_equivalent (named : value ≠ "") (plain : Plain value) :
    first.projection = value ↔ second.projection = value := by
  rw [projection_eq_iff named, projection_eq_iff named, get?_iff_of_equivalent distinct same plain]

end Equivalent

end Definition

end Georeference
