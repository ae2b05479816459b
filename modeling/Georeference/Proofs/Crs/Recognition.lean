/-
**What the code of a zone says about a definition.**

A definition whose projection is `utm`, whose datum is `WGS84` and whose number is that of a zone
has the code of that zone put on it. Nothing is asked of its units and its defaults, and under the
same code another definition may have been added. So the definition need not be the one that its
code is looked up as, and the question is where the two can contradict each other.

### Contradictions

`Definition.AgreeOn` says that two definitions have the same to compare under a key that both carry,
and `Definition.Compatible` that they contradict each other nowhere.

### The theorem

`Registry.recognised_compatible`: the code is that of the zone of the definition, and it is always
known. It is looked up as the definition of the zone, unless something else was added under it.
Under a key for which that has what the definition of the zone has, or nothing, there is no
contradiction, the zone itself, `units` and `no_defs` aside. If the two are even equivalent, then
both give one number as the zone, and there is no contradiction under any other key, once the
definition gives no other units than metres and sets `no_defs` as a switch where it has it.

`Registry.recognised_incompatible` has the two ways in which they do contradict each other: other
units, and another definition that was added under the code.

**The proof goes through the definition of the zone.** Its parameters are known one by one
(`Definition.compared?_zoneDefinition`), and a definition on which the code is put has the same as
it under every key that was looked at (`Definition.agreeOn_zoneDefinition`). The switch for the
south stands in the definition of a southern zone only. What agrees with the definition of the zone
then agrees with whatever says no more than it under the key (`Definition.AgreeOn.of_said`), and in
particular with what is equivalent to it.
-/

import Georeference.Proofs.Crs.Interchange
import Georeference.Proofs.Header.Resolution
import Georeference.Proofs.Registry.CodeText

namespace Georeference

namespace Definition

/-- Two definitions have the same to compare under a key, if both carry it. -/
def AgreeOn (key : String) (first second : Definition) : Prop :=
  ∀ mine other, first.compared? key = some mine → second.compared? key = some other → mine = other

/-- Two definitions give one zone, and the same under every key that both carry. -/
structure Compatible (first second : Definition) : Prop where
  zone : ∃ number, first.zoneNumber? = some number ∧ second.zoneNumber? = some number
  others : ∀ key, key ≠ "zone" → AgreeOn key first second

variable {definition : Definition} {zone : UtmZone} {key : String}

/-- What agrees with a definition agrees with one that says no more. -/
theorem AgreeOn.of_said {first second third : Definition} (agree : AgreeOn key first second)
    (said : ∀ other, third.compared? key = some other → second.compared? key = some other) :
    AgreeOn key first third :=
  fun mine other present compared => agree mine other present (said other compared)

/-! ### The definition of a zone -/

/-- **What the definition of a zone has to compare**, its number aside. -/
theorem compared?_zoneDefinition {compared : Option String}
    (found : (Builtin.zoneDefinition zone).compared? key = some compared) :
    key = "zone" ∨
      (key, compared) ∈ [("proj", some "utm"), ("datum", some "WGS84"), ("units", some "m"),
        ("no_defs", none)] ∨
      zone.hemisphere = .south ∧ key = "south" ∧ compared = none := by
  obtain ⟨parameter, present, rfl⟩ := Option.map_eq_some_iff.mp found
  have member := List.mem_of_find?_eq_some present
  obtain rfl : parameter.key = key := by simpa using List.find?_some present
  rw [Builtin.zoneDefinition_eq] at member
  have either := mem_ofZone member
  simp only [List.mem_cons, List.not_mem_nil, or_false] at either
  rcases either with rfl | rfl | rfl | rfl | rfl | rfl
  · exact Or.inr (Or.inl (by decide))
  · exact Or.inl rfl
  · exact Or.inr (Or.inl (by decide))
  · exact Or.inr (Or.inl (by decide))
  · exact Or.inr (Or.inl (by decide))
  · have flagged : (ofZone (toString zone.number) none zone.hemisphere).hasFlag "south" = true :=
      List.any_eq_true.mpr ⟨_, member, rfl⟩
    have side : (ofZone (toString zone.number) none zone.hemisphere).hemisphere = zone.hemisphere :=
      hemisphere_ofZone (Or.inl rfl)
    have south := side.symm.trans (hemisphere_eq_south_iff.mpr flagged)
    exact Or.inr (Or.inr ⟨south, rfl, rfl⟩)

/-! ### A definition on which a code is put -/

section Recognised

variable (distinct : (definition.parameters.map Parameter.key).Nodup)
  (datum : definition.get? "datum" = some "WGS84")
  (found : (Crs.ofDefinition definition).utmZone? = some zone)

include distinct datum found

/-- **Under the keys that were looked at** a definition agrees with that of its zone. -/
theorem agreeOn_zoneDefinition (number : key ≠ "zone")
    (units : key = "units" → ∀ mine, definition.compared? "units" = some mine → mine = some "m")
    (defaults : key = "no_defs" →
      ∀ mine, definition.compared? "no_defs" = some mine → mine = none) :
    AgreeOn key definition (Builtin.zoneDefinition zone) := by
  obtain ⟨projection, -, hemisphere, -⟩ := Crs.utmZone?_eq_some_iff.mp found
  have named : definition.compared? "proj" = some (some "utm") :=
    compared?_of_get? ((projection_eq_iff (by decide)).mp projection) (by decide)
  have placed : definition.compared? "datum" = some (some "WGS84") :=
    compared?_of_get? datum (by decide)
  intro mine other present known
  rcases compared?_zoneDefinition known with rfl | member | ⟨south, rfl, rfl⟩
  · exact absurd rfl number
  · simp only [List.mem_cons, List.not_mem_nil, or_false, Prod.mk.injEq] at member
    rcases member with ⟨rfl, rfl⟩ | ⟨rfl, rfl⟩ | ⟨rfl, rfl⟩ | ⟨rfl, rfl⟩
    · exact Option.some.inj (present.symm.trans named)
    · exact Option.some.inj (present.symm.trans placed)
    · exact units rfl mine present
    · exact defaults rfl mine present
  · have flagged : definition.hasFlag "south" = true :=
      hemisphere_eq_south_iff.mp (hemisphere.trans south)
    exact Option.some.inj (present.symm.trans ((hasFlag_iff distinct).mp flagged))

end Recognised

end Definition

/-! ### What the code is looked up as -/

namespace Registry

variable {registry : Registry}

/-- **The code of a zone is always known**, as what is built in unless it was redefined. -/
theorem crsOfCode_zone (registry : Registry) {zone : UtmZone}
    (inside : 1 ≤ zone.number ∧ zone.number ≤ 60) :
    ∃ known, registry.crsOfCode (toString zone.epsg) = .ok known ∧
      ((∀ pair ∈ registry.added, pair.1 ≠ zone.epsg) →
        known.definition = Builtin.zoneDefinition zone) := by
  have read := readCode_eq_ok_iff.mpr (DenotesCode.toString (UtmZone.epsg_lt inside))
  cases found : registry.lookup zone.epsg with
  | none =>
    rw [lookup, Builtin.find?_zone inside, Option.or_eq_none_iff] at found
    cases found.2
  | some entry =>
    refine ⟨entry.crs, crsOfCode_eq_ok_iff.mpr ⟨_, entry, read, found, rfl⟩, fun notAdded => ?_⟩
    rw [lookup_of_notAdded notAdded, Builtin.find?_zone inside, Option.some.injEq] at found
    rw [← found]
    rfl

/-- **A code that is put on a definition fits what the code is looked up as**, as far as it was
looked at. -/
theorem recognised_compatible (registry : Registry) {text : String} {crs : Crs} {code : Nat}
    (built : Crs.ofProj4 text = .ok crs) (recognised : crs.epsg = some code) :
    ∃ zone known, crs.utmZone? = some zone ∧ code = zone.epsg ∧
      registry.crsOfCode (toString code) = .ok known ∧
      ((∀ pair ∈ registry.added, pair.1 ≠ code) →
        known.definition = Builtin.zoneDefinition zone) ∧
      (∀ key, key ≠ "zone" → key ≠ "units" → key ≠ "no_defs" →
        (∀ other, known.definition.compared? key = some other →
          (Builtin.zoneDefinition zone).compared? key = some other) →
        Definition.AgreeOn key crs.definition known.definition) ∧
      ((Builtin.zoneDefinition zone).equivalent known.definition = true →
        (∃ number, crs.definition.zoneNumber? = some number ∧
          known.definition.zoneNumber? = some number) ∧
        (∀ key, key ≠ "zone" → key ≠ "units" → key ≠ "no_defs" →
          Definition.AgreeOn key crs.definition known.definition) ∧
        ((∀ mine, crs.definition.compared? "units" = some mine → mine = some "m") →
          (∀ mine, crs.definition.compared? "no_defs" = some mine → mine = none) →
          crs.definition.Compatible known.definition)) := by
  obtain ⟨valid, same⟩ := Crs.eq_ofValid_of_ofProj4 built
  have distinct := valid.wellFormed.distinct
  rw [same] at recognised
  obtain ⟨datum, zone, found, rfl⟩ := Definition.zoneCode?_eq_some_iff.mp recognised
  obtain ⟨-, number, -, inside⟩ := Crs.utmZone?_eq_some_iff.mp found
  obtain ⟨known, looked, builtin⟩ := crsOfCode_zone registry inside
  have checked : ∀ key, key ≠ "zone" → key ≠ "units" → key ≠ "no_defs" →
      Definition.AgreeOn key crs.definition (Builtin.zoneDefinition zone) :=
    fun key other units defaults => Definition.agreeOn_zoneDefinition distinct datum found other
      (fun same => absurd same units) (fun same => absurd same defaults)
  refine ⟨zone, known, found, rfl, looked, builtin, ?_, fun equivalent => ?_⟩
  · intro key other units defaults said
    exact (checked key other units defaults).of_said said
  have distinct' := (Builtin.zoneDefinition_valid inside).wellFormed.distinct
  have said : ∀ key other, known.definition.compared? key = some other →
      (Builtin.zoneDefinition zone).compared? key = some other :=
    fun key _ compared =>
      (Definition.compared?_of_equivalent distinct' equivalent key).trans compared
  have numbers : ∃ number, crs.definition.zoneNumber? = some number ∧
      known.definition.zoneNumber? = some number := by
    refine ⟨zone.number, number, ?_⟩
    rw [← Definition.zoneNumber?_of_equivalent distinct' equivalent]
    exact Builtin.zoneNumber?_zoneDefinition inside
  refine ⟨numbers, ?_, ?_⟩
  · intro key other units defaults
    exact (checked key other units defaults).of_said (said key)
  · intro units defaults
    refine ⟨numbers, fun key other => ?_⟩
    exact (Definition.agreeOn_zoneDefinition distinct datum found other
      (fun _ => units) (fun _ => defaults)).of_said (said key)

/-- A definition spelled in its own way, what is built in, and the same added in another order. -/
theorem recognised_compatible_reordered :
    let text := "+lat_0=5 +no_defs=TRUE +zone=+032 +south=no +datum=WGS84 +proj=utm"
    let added : Definition := ⟨[.flag "no_defs", .assign "units" "m", .assign "datum" "WGS84",
      .assign "zone" "32", .assign "proj" "utm"]⟩
    let registry := Registry.builtin.add ⟨32632, "Zone 32", added⟩
    registry.Reachable ∧ ∃ crs known other, Crs.ofProj4 text = .ok crs ∧ crs.epsg = some 32632 ∧
      Registry.builtin.crsOfCode "32632" = .ok known ∧ crs.definition.Compatible known.definition ∧
      registry.crsOfCode "32632" = .ok other ∧ other.definition = added ∧
      crs.definition.Compatible other.definition := by
  intro text added registry
  have reachable : registry.Reachable := by
    let system : SystemDefinition :=
      ⟨32632, "Zone 32", "+no_defs +units=m +datum=WGS84 +zone=32 +proj=utm"⟩
    have success : Registry.builtin.define [system] = .ok registry := by decide +kernel
    exact .define .builtin (by decide) success
  let definition : Definition := ⟨[.assign "lat_0" "5", .assign "no_defs" "TRUE",
    .assign "zone" "+032", .assign "south" "no", .assign "datum" "WGS84", .assign "proj" "utm"]⟩
  let crs : Crs := ⟨definition, some 32632, none⟩
  have built : Crs.ofProj4 text = .ok crs := by decide +kernel
  have units : ∀ mine, crs.definition.compared? "units" = some mine → mine = some "m" := by
    intro mine present
    cases present
  have defaults : ∀ mine, crs.definition.compared? "no_defs" = some mine → mine = none := by
    intro mine present
    have set : crs.definition.compared? "no_defs" = some none := by decide +kernel
    exact Option.some.inj (present.symm.trans set)
  obtain ⟨zone, known, found, -, looked, own, -, fits⟩ :=
    recognised_compatible Registry.builtin built (rfl : crs.epsg = some 32632)
  obtain ⟨zone', other, found', -, looked', -, -, fits'⟩ :=
    recognised_compatible registry built (rfl : crs.epsg = some 32632)
  have zone_eq : crs.utmZone? = some ⟨32, .north⟩ := by decide +kernel
  obtain rfl : zone = ⟨32, .north⟩ := Option.some.inj (found.symm.trans zone_eq)
  obtain rfl : zone' = ⟨32, .north⟩ := Option.some.inj (found'.symm.trans zone_eq)
  have other_eq : registry.crsOfCode "32632" = .ok ⟨added, some 32632, some "Zone 32"⟩ := by
    decide +kernel
  obtain rfl : other = ⟨added, some 32632, some "Zone 32"⟩ :=
    Except.ok.inj (looked'.symm.trans other_eq)
  have same := own (by decide)
  refine ⟨reachable, crs, known, _, built, rfl, looked, ?_, looked', rfl, ?_⟩
  · exact (fits (same ▸ Definition.equivalent_refl _)).2.2 units defaults
  · exact (fits' (by decide +kernel)).2.2 units defaults

/-- **A code that is put on a definition can contradict what the code is looked up as**, in its
units or altogether. -/
theorem recognised_incompatible :
    (∃ crs known,
      Crs.ofProj4 "+proj=utm +zone=32 +datum=WGS84 +units=us-ft +no_defs" = .ok crs ∧
      crs.epsg = some 32632 ∧ Registry.builtin.crsOfCode (toString 32632) = .ok known ∧
      ¬ crs.definition.Compatible known.definition ∧ crs.equivalent known = true) ∧
    ∃ registry : Registry, registry.Reachable ∧ ∃ crs known,
      Crs.ofProj4 "+proj=utm +zone=32 +datum=WGS84 +units=m +no_defs" = .ok crs ∧
      crs.epsg = some 32632 ∧ registry.crsOfCode (toString 32632) = .ok known ∧
      ¬ crs.definition.Compatible known.definition ∧ crs.equivalent known = true := by
  let zone (units : String) : Crs :=
    ⟨⟨[.assign "proj" "utm", .assign "zone" "32", .assign "datum" "WGS84", .assign "units" units,
      .flag "no_defs"]⟩, some 32632, none⟩
  constructor
  · let known : Crs := (Builtin.zoneEntry ⟨32, .north⟩).crs
    have feet : (zone "us-ft").definition.compared? "units" = some (some "us-ft") := by
      decide +kernel
    have metres : known.definition.compared? "units" = some (some "m") := by decide +kernel
    refine ⟨zone "us-ft", known, by decide +kernel, rfl, by decide +kernel, ?_, by decide +kernel⟩
    intro compatible
    exact absurd (compatible.others "units" (by decide) _ _ feet metres) (by decide)
  · let other : Entry := ⟨32632, "Degrees", Builtin.geographic (.assign "datum" "WGS84")⟩
    let registry := Registry.builtin.add other
    have reachable : registry.Reachable := by
      let system : SystemDefinition := ⟨32632, "Degrees", "+proj=longlat +datum=WGS84 +no_defs"⟩
      have success : Registry.builtin.define [system] = .ok registry := by decide +kernel
      exact .define .builtin (by decide) success
    refine ⟨registry, reachable, zone "m", other.crs, by decide +kernel, rfl, by decide +kernel, ?_,
      by decide +kernel⟩
    intro compatible
    obtain ⟨number, -, numbered⟩ := compatible.zone
    have unnumbered : other.crs.definition.zoneNumber? = none := by decide +kernel
    rw [unnumbered] at numbered
    cases numbered

end Registry

end Georeference
