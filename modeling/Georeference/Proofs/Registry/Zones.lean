/-
**Systems of zones, and their codes.**

A zone on the WGS 84 datum is known under a code, and it can be written as a definition. A system
that comes from the definition cannot be told from the one that comes from the code, in whichever
way the switches of the definition are set.

### When two systems agree

`Crs.Agree` lists everything that is ever asked of a system but its name, the order of its
parameters and the way in which its switches are set: the comparison of definitions in both
directions, the code, the zone, the datum, the units and the area of use.

* `Crs.Agree.of_zones`: systems of one zone agree when their codes do.
* `Crs.epsg_ofValid_zone`: the code of a zone that is given by its definition.

### What a code is looked up as

* `UtmZone.ofEpsg?_epsg`, `UtmZone.epsg_lt`: the code of a zone leads back to it, and is a word of
  32 bits.
* `Builtin.find?_zone`, `Registry.lookup_of_notAdded`: under its code the zone is found, unless
  something else was added there.

**The proof is one lemma for each thing that is asked.** Each of them depends on a definition only
through its projection, its numeral, its hemisphere, or parameters that all definitions of zones
have in common, and never on how a switch is set. So systems whose definitions have the shape
`Definition.ofZone` with one numeral and one hemisphere answer alike.
-/

import Georeference.Proofs.Registry.Reachable

namespace Georeference

/-- Two systems that nothing but their names, their order and their switches tells apart. -/
structure Crs.Agree (first second : Crs) : Prop where
  forth : first.definition.equivalent second.definition = true
  back : second.definition.equivalent first.definition = true
  epsg : first.epsg = second.epsg
  utmZone : first.utmZone? = second.utmZone?
  datum : first.datum? = second.datum?
  units : first.units? = second.units?
  areaOfUse : first.areaOfUse? = second.areaOfUse?

/-! ### Systems of zones -/

namespace Crs

variable {crs : Crs} {numeral : String} {set : Option String} {hemisphere : Hemisphere}

theorem projection_of_zone (shape : crs.definition = Definition.ofZone numeral set hemisphere) :
    crs.projection = "utm" := by
  rw [projection, shape, Definition.projection_ofZone]

theorem datum?_of_zone (shape : crs.definition = Definition.ofZone numeral set hemisphere) :
    crs.datum? = some "WGS84" := by
  rw [datum?, shape, Definition.get?_datum_ofZone]

theorem units?_of_zone (shape : crs.definition = Definition.ofZone numeral set hemisphere) :
    crs.units? = some "m" := by
  rw [units?, shape, Definition.get?_units_ofZone]

theorem utmZone?_of_zone (shape : crs.definition = Definition.ofZone numeral set hemisphere)
    (switch : Definition.SetSwitch set) :
    crs.utmZone? = (Decimal.boundedInteger? UInt64.size numeral.toList).bind fun number =>
      UtmZone.ofNumber? number hemisphere := by
  rw [utmZone?, projection_of_zone shape, if_pos rfl, shape, Definition.zoneNumber?_ofZone,
    Definition.hemisphere_ofZone switch]

theorem areaOfUse?_of_zone (shape : crs.definition = Definition.ofZone numeral set hemisphere) :
    crs.areaOfUse? = crs.utmZone?.map UtmZone.bounds := by
  have planar : crs.isGeographic = false := by
    rw [isGeographic, projection_of_zone shape]
    decide
  rw [areaOfUse?, planar]
  rfl

/-- **Systems of one zone agree** when their codes do. -/
theorem Agree.of_zones {first second : Crs} {other : Option String}
    (firstShape : first.definition = Definition.ofZone numeral set hemisphere)
    (secondShape : second.definition = Definition.ofZone numeral other hemisphere)
    (firstSwitch : Definition.SetSwitch set) (secondSwitch : Definition.SetSwitch other)
    (sameCode : first.epsg = second.epsg) : first.Agree second := by
  have sameZone : first.utmZone? = second.utmZone? := by
    rw [utmZone?_of_zone firstShape firstSwitch, utmZone?_of_zone secondShape secondSwitch]
  refine ⟨?_, ?_, sameCode, sameZone, ?_, ?_, ?_⟩
  · rw [firstShape, secondShape]
    exact Definition.ofZone_equivalent firstSwitch secondSwitch
  · rw [firstShape, secondShape]
    exact Definition.ofZone_equivalent secondSwitch firstSwitch
  · rw [datum?_of_zone firstShape, datum?_of_zone secondShape]
  · rw [units?_of_zone firstShape, units?_of_zone secondShape]
  · rw [areaOfUse?_of_zone firstShape, areaOfUse?_of_zone secondShape, sameZone]

/-- **The code of a zone** that is given by its definition. -/
theorem epsg_ofValid_zone (numeral : String) (set : Option String) (hemisphere : Hemisphere) :
    (ofValid (Definition.ofZone numeral set hemisphere)).epsg =
      (ofValid (Definition.ofZone numeral set hemisphere)).utmZone?.map UtmZone.epsg := by
  have datum : (ofDefinition (Definition.ofZone numeral set hemisphere)).datum? = some "WGS84" :=
    datum?_of_zone rfl
  unfold ofValid
  dsimp only
  rw [if_pos datum]
  rfl

end Crs

/-! ### Codes of zones -/

theorem UtmZone.ofEpsg?_epsg {zone : UtmZone} (inside : 1 ≤ zone.number ∧ zone.number ≤ 60) :
    UtmZone.ofEpsg? zone.epsg = some zone := by
  obtain ⟨number, hemisphere⟩ := zone
  dsimp only at inside
  cases hemisphere with
  | north =>
    have code : UtmZone.epsg ⟨number, .north⟩ = 32600 + number := rfl
    rw [code, ofEpsg?, if_pos (by simp only [Bool.and_eq_true, decide_eq_true_eq]; omega)]
    simp
  | south =>
    have code : UtmZone.epsg ⟨number, .south⟩ = 32700 + number := rfl
    rw [code, ofEpsg?, if_neg (by simp only [Bool.and_eq_true, decide_eq_true_eq]; omega),
      if_pos (by simp only [Bool.and_eq_true, decide_eq_true_eq]; omega)]
    simp

theorem UtmZone.epsg_lt {zone : UtmZone} (inside : 1 ≤ zone.number ∧ zone.number ≤ 60) :
    zone.epsg < UInt32.size := by
  obtain ⟨number, hemisphere⟩ := zone
  have size : UInt32.size = 4294967296 := rfl
  dsimp only at inside
  cases hemisphere with
  | north =>
    show 32600 + number < _
    omega
  | south =>
    show 32700 + number < _
    omega

theorem Builtin.find?_zone {zone : UtmZone} (inside : 1 ≤ zone.number ∧ zone.number ≤ 60) :
    Builtin.find? zone.epsg = some (Builtin.zoneEntry zone) := by
  rw [Builtin.find?_eq, UtmZone.ofEpsg?_epsg inside]

/-- **A code under which nothing was added** is looked up as what is built in. -/
theorem Registry.lookup_of_notAdded {registry : Registry} {code : Nat}
    (notAdded : ∀ pair ∈ registry.added, pair.1 ≠ code) :
    registry.lookup code = Builtin.find? code := by
  have absent : registry.added.find? (fun pair => pair.1 == code) = none := by
    rw [List.find?_eq_none]
    intro pair member
    simpa using notAdded pair member
  rw [Registry.lookup, Registry.findAdded?, absent, Option.map_none, Option.none_or]

end Georeference
