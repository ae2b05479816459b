/-
**Where a system is meant to be used.**

The number of a zone is read twice: when a definition is checked, and whenever the zone is asked
for. Both come to the same, so a system with the projection `utm` that was built at all has the zone
that its definition names, and its area of use is that of the zone.

### Areas

* `BoundingBox.OnGlobe`: a box with whole edges on the globe that is not empty.
* `UtmZone.bounds_eq_exact`: working the edges of a zone out in floating point rounds none of them.
* `UtmZone.bounds_onGlobe`, `Crs.onGlobe_of_areaOfUse?`: every area of use is on the globe.
* `Crs.areaOfUse?_isSome_iff`: geographic systems have an area, and those of zones, and no others.

### The theorem

`Definition.NamesZone` says which zone a definition names, apart from the function that finds it,
and `Registry.Builds` what is built from a text, found under a code or resolved from a header.
`Registry.Reachable.zones_and_areas`, for every registry that there can be: a definition whose
projection is named well passes exactly when its projection is not `utm` or it has a zone. So
whatever is built with the projection `utm` has a zone, from 1 to 60, the one that its definition
names, and the area of this zone. Only these and geographic systems have an area of use, and it is
always on the globe.

**The proof is that what is built is valid.** A text is checked before it is built, and an entry
when it was added (`Reachable.valid_of_builds`), and a valid definition with the projection `utm`
has a zone by what is checked. There are no laws of floating point to treat all zones at once, so
the sixty numbers are evaluated one by one, on each hemisphere with the same longitudes.
-/

import Georeference.Proofs.Crs.Construction

namespace Georeference

/-! ### Boxes on the globe -/

/-- A box with whole edges that lies on the globe and is not empty. -/
structure BoundingBox.OnGlobe (box : BoundingBox) : Prop where
  whole : ∃ west south east north : Int, box = .ofDegrees west south east north
  west : -180 ≤ box.west
  width : box.west < box.east
  east : box.east ≤ 180
  south : -90 ≤ box.south
  height : box.south < box.north
  north : box.north ≤ 90

theorem BoundingBox.world_onGlobe : BoundingBox.world.OnGlobe := by
  refine ⟨⟨_, _, _, _, rfl⟩, ?_, ?_, ?_, ?_, ?_, ?_⟩ <;> decide +kernel

namespace UtmZone

variable {zone : UtmZone}

/-- The area of a zone with every edge in whole degrees. -/
def exactBounds (zone : UtmZone) : BoundingBox :=
  match zone.hemisphere with
  | .north => .ofDegrees zone.longitudes.1 0 zone.longitudes.2 84
  | .south => .ofDegrees zone.longitudes.1 (-80) zone.longitudes.2 0

theorem longitudes_onGlobe : ∀ number ∈ List.range' 1 60,
    -180 ≤ Float.ofInt (6 * number - 183 - 3) ∧
      Float.ofInt (6 * number - 183 - 3) < Float.ofInt (6 * number - 183 + 3) ∧
      Float.ofInt (6 * number - 183 + 3) ≤ 180 := by
  decide +kernel

theorem longitudes_rounded : ∀ number ∈ List.range' 1 60,
    let meridian : Float := -183 + 6 * Float.ofNat number
    meridian - 3 = Float.ofInt (6 * number - 183 - 3) ∧
      meridian + 3 = Float.ofInt (6 * number - 183 + 3) := by
  decide +kernel

theorem mem_range'_of_number (inside : 1 ≤ zone.number ∧ zone.number ≤ 60) :
    zone.number ∈ List.range' 1 60 := by
  rw [List.mem_range'_1]
  omega

/-- **Working the edges out in floating point** rounds none of them. -/
theorem bounds_eq_exact (inside : 1 ≤ zone.number ∧ zone.number ≤ 60) :
    zone.bounds = zone.exactBounds := by
  obtain ⟨west, east⟩ := longitudes_rounded _ (mem_range'_of_number inside)
  have equator : (0 : Float) = Float.ofInt 0 := by decide +kernel
  have arctic : (84 : Float) = Float.ofInt 84 := by decide +kernel
  have antarctic : (-80 : Float) = Float.ofInt (-80) := by decide +kernel
  obtain ⟨number, hemisphere⟩ := zone
  cases hemisphere with
  | north =>
    show BoundingBox.mk (-183 + 6 * Float.ofNat number - 3) 0
      (-183 + 6 * Float.ofNat number + 3) 84 = _
    rw [west, east, equator, arctic]
    rfl
  | south =>
    show BoundingBox.mk (-183 + 6 * Float.ofNat number - 3) (-80)
      (-183 + 6 * Float.ofNat number + 3) 0 = _
    rw [west, east, equator, antarctic]
    rfl

/-- **The area of a zone** is on the globe. -/
theorem bounds_onGlobe (inside : 1 ≤ zone.number ∧ zone.number ≤ 60) : zone.bounds.OnGlobe := by
  rw [bounds_eq_exact inside]
  obtain ⟨west, width, east⟩ := longitudes_onGlobe _ (mem_range'_of_number inside)
  obtain ⟨number, hemisphere⟩ := zone
  cases hemisphere with
  | north =>
    refine ⟨⟨_, _, _, _, rfl⟩, west, width, east, ?_, ?_, ?_⟩
    · show -90 ≤ Float.ofInt 0
      decide +kernel
    · show Float.ofInt 0 < Float.ofInt 84
      decide +kernel
    · show Float.ofInt 84 ≤ 90
      decide +kernel
  | south =>
    refine ⟨⟨_, _, _, _, rfl⟩, west, width, east, ?_, ?_, ?_⟩
    · show -90 ≤ Float.ofInt (-80)
      decide +kernel
    · show Float.ofInt (-80) < Float.ofInt 0
      decide +kernel
    · show Float.ofInt 0 ≤ 90
      decide +kernel

end UtmZone

/-! ### The zone of a system -/

/-- A definition names a zone: by the number that it denotes, and by the switch `south`. -/
structure Definition.NamesZone (definition : Definition) (zone : UtmZone) : Prop where
  inside : 1 ≤ zone.number ∧ zone.number ≤ 60
  number : ∃ numeral, definition.get? "zone" = some numeral ∧
    Decimal.Denotes numeral.toList zone.number
  south : zone.hemisphere = .south ↔
    ∃ parameter ∈ definition.parameters, parameter.key = "south" ∧ parameter.SetsSwitch

namespace Definition

variable {definition : Definition}

theorem hasFlag_iff_setsSwitch {key : String} :
    definition.hasFlag key = true ↔
      ∃ parameter ∈ definition.parameters, parameter.key = key ∧ parameter.SetsSwitch := by
  rw [hasFlag, List.any_eq_true]
  simp only [Bool.and_eq_true, beq_iff_eq, Parameter.isSetFlag_iff]

/-- The number that a definition gives as its zone is the one that is denoted. -/
theorem zoneNumber?_eq_some_iff {number : Int} (inside : 1 ≤ number ∧ number ≤ 60) :
    definition.zoneNumber? = some number ↔
      ∃ numeral, definition.get? "zone" = some numeral ∧
        Decimal.Denotes numeral.toList number := by
  have fits : -((UInt64.size / 2 : Nat) : Int) ≤ number ∧ number < (UInt64.size / 2 : Nat) := by
    rw [Decimal.half_long]
    omega
  rw [zoneNumber?, Option.bind_eq_some_iff]
  simp only [Decimal.boundedInteger?_eq_some_iff, fits, and_true]

theorem hemisphere_eq_iff {hemisphere : Hemisphere} :
    definition.hemisphere = hemisphere ↔ (hemisphere = .south ↔ definition.hasFlag "south") := by
  rw [← hemisphere_eq_south_iff]
  cases hemisphere <;> cases definition.hemisphere <;> decide

end Definition

namespace Crs

variable {crs : Crs}

/-- **Which zone a system has**: the one that it names, if its projection is `utm`. -/
theorem utmZone?_eq_some_iff_namesZone {zone : UtmZone} :
    crs.utmZone? = some zone ↔ crs.projection = "utm" ∧ crs.definition.NamesZone zone := by
  rw [utmZone?_eq_some_iff]
  refine and_congr_right fun _ => ?_
  rw [Definition.hemisphere_eq_iff, Definition.hasFlag_iff_setsSwitch]
  constructor
  · rintro ⟨read, south, inside⟩
    exact ⟨inside, (Definition.zoneNumber?_eq_some_iff (by omega)).mp read, south⟩
  · rintro ⟨inside, named, south⟩
    exact ⟨(Definition.zoneNumber?_eq_some_iff (by omega)).mpr named, south, inside⟩

/-- **A valid definition with the projection `utm`** names a zone. -/
theorem exists_utmZone?_of_valid (valid : crs.definition.Valid) (utm : crs.projection = "utm") :
    ∃ zone, crs.utmZone? = some zone :=
  (Definition.validate_eq_ok_iff.mp valid.allowed).2 utm

/-! ### The area of a system -/

/-- **Which systems have an area of use**: geographic ones, and those of zones. -/
theorem areaOfUse?_isSome_iff (valid : crs.definition.Valid) :
    crs.areaOfUse?.isSome = true ↔ crs.projection = "utm" ∨ crs.isGeographic = true := by
  rw [areaOfUse?]
  by_cases geographic : crs.isGeographic = true
  · rw [if_pos geographic]
    exact iff_of_true rfl (Or.inr geographic)
  · rw [if_neg geographic, or_iff_left geographic, Option.isSome_map, Option.isSome_iff_exists]
    constructor
    · rintro ⟨zone, found⟩
      exact (utmZone?_eq_some_iff.mp found).1
    · exact exists_utmZone?_of_valid valid

/-- The area of a system with a zone is that of the zone. -/
theorem areaOfUse?_of_utmZone? {zone : UtmZone} (found : crs.utmZone? = some zone) :
    crs.areaOfUse? = some zone.bounds := by
  rw [areaOfUse?, isGeographic_of_utmZone? found, found]
  rfl

/-- **Every area of use is on the globe.** -/
theorem onGlobe_of_areaOfUse? {box : BoundingBox} (known : crs.areaOfUse? = some box) :
    box.OnGlobe := by
  rw [areaOfUse?] at known
  split at known
  · rw [← Option.some.inj known]
    exact BoundingBox.world_onGlobe
  · obtain ⟨zone, found, rfl⟩ := Option.map_eq_some_iff.mp known
    exact UtmZone.bounds_onGlobe (utmZone?_eq_some_iff.mp found).2.2.2

end Crs

/-! ### Everything that is built -/

namespace Registry

/-- What is built from a text, found under a code, or resolved from a header. -/
inductive Builds (registry : Registry) : Crs → Prop
  | text {text : String} {crs : Crs} (built : Crs.ofProj4 text = .ok crs) : Builds registry crs
  | code {text : String} {crs : Crs} (found : registry.crsOfCode text = .ok crs) :
      Builds registry crs
  | header {header : String} {crs : Crs} (accepted : registry.resolve header = .ok crs) :
      Builds registry crs

variable {registry : Registry}

/-- **Whatever is built** has a valid definition. -/
theorem Reachable.valid_of_builds (reachable : registry.Reachable) {crs : Crs}
    (builds : registry.Builds crs) : crs.definition.Valid := by
  cases builds with
  | text built => exact (Crs.eq_ofValid_of_ofProj4 built).1
  | code found =>
    obtain ⟨number, entry, -, known, rfl⟩ := crsOfCode_eq_ok_iff.mp found
    exact reachable.valid_of_lookup known
  | header accepted => exact (reachable.valid_of_resolve accepted).1

/-- **Checking a definition and asking for its zone come to the same**, and areas are on the globe.
-/
theorem Reachable.zones_and_areas (reachable : registry.Reachable) :
    (∀ definition : Definition, isProjectionName definition.projection = true →
      (definition.validate = .ok () ↔ definition.projection ≠ "utm" ∨
        (Crs.ofDefinition definition).utmZone?.isSome = true)) ∧
    ∀ crs, registry.Builds crs →
      (crs.projection = "utm" → ∃ zone, crs.utmZone? = some zone ∧
        crs.definition.NamesZone zone ∧ crs.areaOfUse? = some zone.bounds ∧
        zone.bounds = zone.exactBounds) ∧
      (crs.areaOfUse?.isSome = true ↔ crs.projection = "utm" ∨ crs.isGeographic = true) ∧
      ∀ box, crs.areaOfUse? = some box → box.OnGlobe := by
  constructor
  · intro definition named
    rw [Definition.validate_eq_ok_iff, and_iff_right named, Option.isSome_iff_exists,
      ← imp_iff_not_or]
  · intro crs builds
    have valid := reachable.valid_of_builds builds
    refine ⟨fun utm => ?_, Crs.areaOfUse?_isSome_iff valid, fun box => Crs.onGlobe_of_areaOfUse?⟩
    obtain ⟨zone, found⟩ := Crs.exists_utmZone?_of_valid valid utm
    have names := (Crs.utmZone?_eq_some_iff_namesZone.mp found).2
    exact ⟨zone, found, names, Crs.areaOfUse?_of_utmZone? found,
      UtmZone.bounds_eq_exact names.inside⟩

/-- The code of one zone redefined as another, and a zone that is of no use. -/
theorem Reachable.zones_and_areas_redefined :
    let entry : Entry := ⟨32632, "Seventh", ⟨[.assign "proj" "utm", .assign "zone" "+07",
      .assign "south" "TRUE", .assign "ellps" "intl"]⟩⟩
    let registry := Registry.builtin.add entry
    registry.Reachable ∧ registry.crsOfCode "32632" = .ok entry.crs ∧
      entry.definition.NamesZone ⟨7, .south⟩ ∧
      entry.crs.areaOfUse? = some (UtmZone.exactBounds ⟨7, .south⟩) ∧
      (∃ crs box, registry.resolve "+proj=latlong +zone=7" = .ok crs ∧ crs.utmZone? = none ∧
        crs.areaOfUse? = some box ∧ box.OnGlobe) := by
  intro entry registry
  have reachable : registry.Reachable := by
    let system : SystemDefinition :=
      ⟨32632, "Seventh", "+proj=utm +zone=+07 +south=TRUE +ellps=intl"⟩
    have success : Registry.builtin.define [system] = .ok registry := by decide +kernel
    exact .define .builtin (by decide) success
  obtain ⟨-, built⟩ := reachable.zones_and_areas
  have found : registry.crsOfCode "32632" = .ok entry.crs := by decide +kernel
  obtain ⟨zoned, -, -⟩ := built _ (.code found)
  obtain ⟨zone, known, names, area, unrounded⟩ := zoned (by decide +kernel)
  have seventh : entry.crs.utmZone? = some ⟨7, .south⟩ := by decide +kernel
  obtain rfl : zone = ⟨7, .south⟩ := Option.some.inj (known.symm.trans seventh)
  let crs : Crs := ⟨⟨[.assign "proj" "latlong", .assign "zone" "7"]⟩, none, none⟩
  have accepted : registry.resolve "+proj=latlong +zone=7" = .ok crs := by decide +kernel
  obtain ⟨-, somewhere, onGlobe⟩ := built _ (.header accepted)
  obtain ⟨box, area'⟩ := Option.isSome_iff_exists.mp (somewhere.mpr (Or.inr (by decide +kernel)))
  exact ⟨reachable, found, names, unrounded ▸ area, crs, box, accepted, by decide +kernel, area',
    onGlobe box area'⟩

end Registry

end Georeference
