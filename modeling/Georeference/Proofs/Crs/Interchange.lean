/-
**Equivalent definitions make systems that are used alike.**

Whatever is read off a definition is read off an equivalent one as well: the zone, whether the
coordinates are longitudes and latitudes, the area where the system is used, and the code that is
put on it.

### What is read off a definition

* `Crs.utmZone?_eq_some_iff`: a system has a zone when its projection is `utm` and its number is
  that of the zone, on the hemisphere that its switch says.
* `Crs.isGeographic_eq_true_iff`: a system is geographic by the name of its projection.
* `Crs.utmZone?_of_equivalent`, `Crs.isGeographic_of_equivalent`, `Crs.areaOfUse?_of_equivalent`:
  equivalent definitions have the same of each.

### The code that is put on a definition

`Definition.zoneCode?` is the code of the zone of a definition with the datum `WGS84`.
`Definition.zoneCode?_eq_some_iff` says which one it is, and `Definition.zoneCode?_of_equivalent`
that equivalent definitions have the same.

**The proof is that comparing leaves the deciding values alone.** Definitions are compared by values
in which all set switches look the same, so `proj=true` and a bare `proj` count as equal although
the one has a value and the other has none. A value that is not spelled like a switch is still
compared as it stands. The names that decide whether a system has a zone or is geographic are of
that kind, so are the numbers of zones and the name of the datum, and the hemisphere depends on a
switch only as far as it is set.
-/

import Georeference.Proofs.Definition.Comparison
import Georeference.Proofs.Registry.Zones

namespace Georeference

theorem UtmZone.ofNumber?_eq_some_iff {number : Int} {hemisphere : Hemisphere} {zone : UtmZone} :
    UtmZone.ofNumber? number hemisphere = some zone ↔
      number = zone.number ∧ hemisphere = zone.hemisphere ∧ 1 ≤ zone.number ∧ zone.number ≤ 60 := by
  obtain ⟨known, side⟩ := zone
  rw [UtmZone.ofNumber?, Option.ite_none_right_eq_some, Option.some.injEq, UtmZone.mk.injEq,
    Bool.and_eq_true, decide_eq_true_eq, decide_eq_true_eq]
  constructor
  · rintro ⟨inside, same, rfl⟩
    dsimp only
    exact ⟨by omega, rfl, by omega, by omega⟩
  · rintro ⟨same, rfl, inside⟩
    dsimp only at same inside
    exact ⟨by omega, by omega, rfl⟩

/-- **The codes of zones** tell them apart. -/
theorem UtmZone.eq_of_epsg {zone other : UtmZone} (inside : 1 ≤ zone.number ∧ zone.number ≤ 60)
    (inside' : 1 ≤ other.number ∧ other.number ≤ 60) (same : zone.epsg = other.epsg) :
    zone = other := by
  have found := ofEpsg?_epsg inside
  rw [same, ofEpsg?_epsg inside'] at found
  exact (Option.some.inj found).symm

theorem Builtin.zoneNumber?_zoneDefinition {zone : UtmZone}
    (inside : 1 ≤ zone.number ∧ zone.number ≤ 60) :
    (zoneDefinition zone).zoneNumber? = some (zone.number : Int) := by
  rw [zoneDefinition_eq, ← Decimal.toString_natCast, Definition.zoneNumber?_ofZone]
  exact Decimal.boundedInteger?_long_toString (by omega)

/-! ### What is read off a definition -/

namespace Crs

/-- **Which zone a system has**: that of its number, if its projection is `utm`. -/
theorem utmZone?_eq_some_iff {crs : Crs} {zone : UtmZone} :
    crs.utmZone? = some zone ↔
      crs.projection = "utm" ∧ crs.definition.zoneNumber? = some (zone.number : Int) ∧
        crs.definition.hemisphere = zone.hemisphere ∧ 1 ≤ zone.number ∧ zone.number ≤ 60 := by
  rw [utmZone?, Option.ite_none_right_eq_some, Option.bind_eq_some_iff]
  simp only [UtmZone.ofNumber?_eq_some_iff]
  refine and_congr_right fun _ => ⟨?_, ?_⟩
  · rintro ⟨number, read, rfl, rest⟩
    exact ⟨read, rest⟩
  · rintro ⟨read, rest⟩
    exact ⟨_, read, rfl, rest⟩

theorem isGeographic_eq_true_iff {crs : Crs} :
    crs.isGeographic = true ↔ ∃ name ∈ geographicProjections, crs.projection = name := by
  rw [isGeographic, List.contains_iff_mem]
  simp

/-- A system with a zone is not geographic. -/
theorem isGeographic_of_utmZone? {crs : Crs} {zone : UtmZone} (found : crs.utmZone? = some zone) :
    crs.isGeographic = false := by
  rw [isGeographic, (utmZone?_eq_some_iff.mp found).1]
  decide

theorem geographicProjections_plain : ∀ name ∈ geographicProjections, name ≠ "" ∧ Plain name := by
  decide

section Equivalent

variable {first second : Crs}
  (distinct : (first.definition.parameters.map Parameter.key).Nodup)
  (same : first.definition.equivalent second.definition = true)

include distinct same

/-- **Equivalent definitions have the same zone.** -/
theorem utmZone?_of_equivalent : first.utmZone? = second.utmZone? := by
  ext1 zone
  rw [utmZone?_eq_some_iff, utmZone?_eq_some_iff, projection, projection,
    Definition.projection_eq_iff_of_equivalent distinct same (by decide) (by decide),
    Definition.zoneNumber?_of_equivalent distinct same,
    Definition.hemisphere_of_equivalent distinct same]

theorem isGeographic_of_equivalent : first.isGeographic = second.isGeographic := by
  rw [Bool.eq_iff_iff, isGeographic_eq_true_iff, isGeographic_eq_true_iff]
  refine exists_congr fun name => and_congr_right fun member => ?_
  obtain ⟨named, plain⟩ := geographicProjections_plain name member
  exact Definition.projection_eq_iff_of_equivalent distinct same named plain

theorem areaOfUse?_of_equivalent : first.areaOfUse? = second.areaOfUse? := by
  rw [areaOfUse?, areaOfUse?, isGeographic_of_equivalent distinct same,
    utmZone?_of_equivalent distinct same]

end Equivalent

end Crs

/-! ### The code that is put on a definition -/

namespace Definition

/-- The code of the zone of a definition on the WGS 84 datum. -/
def zoneCode? (definition : Definition) : Option Nat :=
  (Crs.ofValid definition).epsg

/-- **Which code is put on a definition**: that of its zone, on the datum `WGS84`. -/
theorem zoneCode?_eq_some_iff {definition : Definition} {code : Nat} :
    definition.zoneCode? = some code ↔
      definition.get? "datum" = some "WGS84" ∧
        ∃ zone, (Crs.ofDefinition definition).utmZone? = some zone ∧ zone.epsg = code := by
  unfold zoneCode? Crs.ofValid
  dsimp only
  by_cases datum : (Crs.ofDefinition definition).datum? = some "WGS84"
  · rw [if_pos datum, Option.map_eq_some_iff]
    exact (and_iff_right datum).symm
  · rw [if_neg datum]
    exact iff_of_false (by simp [Crs.ofDefinition]) fun both => datum both.1

/-- **Equivalent definitions have the same code put on them.** -/
theorem zoneCode?_of_equivalent {first second : Definition}
    (distinct : (first.parameters.map Parameter.key).Nodup)
    (same : first.equivalent second = true) : first.zoneCode? = second.zoneCode? := by
  have datum : first.get? "datum" = some "WGS84" ↔ second.get? "datum" = some "WGS84" :=
    get?_iff_of_equivalent distinct same (by decide)
  have zone : (Crs.ofDefinition first).utmZone? = (Crs.ofDefinition second).utmZone? :=
    Crs.utmZone?_of_equivalent distinct same
  ext1 code
  rw [zoneCode?_eq_some_iff, zoneCode?_eq_some_iff, datum, zone]

end Definition

end Georeference
