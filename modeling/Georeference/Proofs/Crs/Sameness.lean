/-
**When two systems are the same, over what is built in.**

Systems are compared by their codes or else by their definitions, and two such tests joined by an
"or" make no equivalence in general. Over what is built in they do.

### One system

* `Definition.SameSystem`: one code is put on both definitions, or they are equivalent.
* `Definition.SameSystem.symm`, `Definition.SameSystem.trans`: this is symmetric and transitive.
* `Crs.Alike.of_sameSystem`: systems with such definitions are used alike.

### Standard systems

`Crs.Standard` are the systems that are built from a text or found under a code that is built in.
They are all that a header is resolved to over what is built in (`Registry.standard_of_resolve`).

### The theorem

`Registry.equivalent_equivalence`: among the systems that headers are resolved to, being equivalent
is reflexive, symmetric and transitive, and equivalent systems have the same zone, are both
geographic or both not, and are used in the same area.

**The proof is that codes say nothing that definitions do not say.** A system built from a text has
the code that is put on its definition, and so has a zone that is built in. The codes of the eight
other systems are put on no definition at all, and belong to one definition each
(`Crs.Standard.coded`, `Builtin.entries_uncoded`). So two standard systems are equivalent exactly
when their definitions are those of one system (`Crs.Standard.equivalent_iff`). That the two tests
can be mixed along a chain is `SameSystem.trans`: equivalent definitions have one code put on them.
-/

import Georeference.Proofs.Crs.Interchange
import Georeference.Proofs.Header.Resolution

namespace Georeference

/-- What two systems that are used alike have in common. -/
structure Crs.Alike (first second : Crs) : Prop where
  utmZone : first.utmZone? = second.utmZone?
  isGeographic : first.isGeographic = second.isGeographic
  areaOfUse : first.areaOfUse? = second.areaOfUse?

/-! ### Definitions of one system -/

/-- One code is put on both definitions, or they are equivalent. -/
def Definition.SameSystem (first second : Definition) : Prop :=
  (∃ code, first.zoneCode? = some code ∧ second.zoneCode? = some code) ∨
    first.equivalent second = true

namespace Definition.SameSystem

variable {first second third : Definition}

theorem symm (distinct : (first.parameters.map Parameter.key).Nodup)
    (same : SameSystem first second) : SameSystem second first := by
  rcases same with ⟨code, front, back⟩ | same
  · exact Or.inl ⟨code, back, front⟩
  · exact Or.inr (equivalent_symm distinct same)

/-- **The two tests can be mixed**: equivalent definitions have one code put on them. -/
theorem trans (distinct : (first.parameters.map Parameter.key).Nodup)
    (distinct' : (second.parameters.map Parameter.key).Nodup)
    (front : SameSystem first second) (back : SameSystem second third) :
    SameSystem first third := by
  rcases front with ⟨code, here, there⟩ | same
  · rcases back with ⟨other, again, behind⟩ | same
    · rw [there, Option.some.injEq] at again
      exact Or.inl ⟨code, here, again ▸ behind⟩
    · rw [zoneCode?_of_equivalent distinct' same] at there
      exact Or.inl ⟨code, here, there⟩
  · rcases back with ⟨code, there, behind⟩ | same'
    · rw [← zoneCode?_of_equivalent distinct same] at there
      exact Or.inl ⟨code, there, behind⟩
    · exact Or.inr (equivalent_trans same same')

end Definition.SameSystem

theorem Crs.utmZone?_of_zoneCode? (crs : Crs) {code : Nat}
    (put : crs.definition.zoneCode? = some code) :
    ∃ zone, crs.utmZone? = some zone ∧ zone.epsg = code ∧ 1 ≤ zone.number ∧ zone.number ≤ 60 := by
  obtain ⟨-, zone, found, code⟩ := Definition.zoneCode?_eq_some_iff.mp put
  exact ⟨zone, found, code, (Crs.utmZone?_eq_some_iff.mp found).2.2.2⟩

/-- **Systems of one definition are used alike**, also when only their codes are the same. -/
theorem Crs.Alike.of_sameSystem {first second : Crs}
    (distinct : (first.definition.parameters.map Parameter.key).Nodup)
    (same : Definition.SameSystem first.definition second.definition) : first.Alike second := by
  rcases same with ⟨code, front, back⟩ | same
  · obtain ⟨zone, found, here, inside⟩ := utmZone?_of_zoneCode? first front
    obtain ⟨other, found', there, inside'⟩ := utmZone?_of_zoneCode? second back
    obtain rfl : zone = other := UtmZone.eq_of_epsg inside inside' (here.trans there.symm)
    have planar := isGeographic_of_utmZone? found
    have planar' := isGeographic_of_utmZone? found'
    refine ⟨found.trans found'.symm, planar.trans planar'.symm, ?_⟩
    rw [areaOfUse?, areaOfUse?, planar, planar', found, found']
  · exact ⟨utmZone?_of_equivalent distinct same, isGeographic_of_equivalent distinct same,
      areaOfUse?_of_equivalent distinct same⟩

/-! ### Systems over what is built in -/

/-- A system built from a text, or found under a code that is built in. -/
inductive Crs.Standard : Crs → Prop
  | ofText {definition : Definition} (valid : definition.Valid) :
      Standard (Crs.ofValid definition)
  | ofCode {code : Nat} {entry : Entry} (known : Builtin.find? code = some entry) :
      Standard entry.crs

namespace Builtin

/-- The eight systems have no code put on their definitions, and none of a zone. -/
theorem entries_uncoded :
    ∀ entry ∈ entries, entry.definition.zoneCode? = none ∧ UtmZone.ofEpsg? entry.code = none := by
  decide +kernel

theorem entries_eq_of_code :
    ∀ entry ∈ entries, ∀ other ∈ entries, entry.code = other.code → entry = other := by
  decide +kernel

/-- The code of a zone is the one that is put on its definition. -/
theorem zoneCode?_zoneDefinition {zone : UtmZone} (inside : 1 ≤ zone.number ∧ zone.number ≤ 60) :
    (zoneDefinition zone).zoneCode? = some zone.epsg := by
  have shape := zoneDefinition_eq zone
  refine Definition.zoneCode?_eq_some_iff.mpr ⟨?_, zone, Crs.utmZone?_eq_some_iff.mpr ?_, rfl⟩
  · rw [shape, Definition.get?_datum_ofZone]
  · refine ⟨Crs.projection_of_zone shape, zoneNumber?_zoneDefinition inside, ?_, inside⟩
    show (zoneDefinition zone).hemisphere = _
    rw [shape, Definition.hemisphere_ofZone (Or.inl rfl)]

end Builtin

namespace Crs.Standard

variable {crs first second : Crs}

theorem valid (standard : crs.Standard) : crs.definition.Valid := by
  cases standard with
  | ofText valid =>
    rw [definition_ofValid]
    exact valid
  | ofCode known => exact Builtin.find?_valid known

/-- **The code of a system** is put on its definition, or it is one of the eight. -/
theorem coded (standard : crs.Standard) :
    crs.epsg = crs.definition.zoneCode? ∨ ∃ entry ∈ Builtin.entries, crs = entry.crs := by
  cases standard with
  | ofText valid =>
    rw [definition_ofValid]
    exact Or.inl rfl
  | @ofCode code entry known =>
    rw [Builtin.find?_eq] at known
    split at known
    · rename_i zone found
      rw [← Option.some.inj known]
      exact Or.inl (Builtin.zoneCode?_zoneDefinition (UtmZone.zone_of_ofEpsg? found).1).symm
    · exact Or.inr ⟨entry, List.mem_of_find?_eq_some known, rfl⟩

/-- Where a code is put on the definition, it is the code of the system. -/
theorem epsg_of_zoneCode? (standard : crs.Standard) {code : Nat}
    (put : crs.definition.zoneCode? = some code) : crs.epsg = some code := by
  rcases standard.coded with same | ⟨entry, member, rfl⟩
  · exact same.trans put
  · have uncoded := (Builtin.entries_uncoded entry member).1
    exact absurd (put.symm.trans uncoded) (by simp)

/-- A code that is put on a definition is none of the eight. -/
theorem code_ne_of_zoneCode? {definition : Definition} {entry : Entry}
    (member : entry ∈ Builtin.entries) : definition.zoneCode? ≠ some entry.code := by
  intro put
  obtain ⟨zone, -, code, inside⟩ := utmZone?_of_zoneCode? (ofDefinition definition) put
  have known := UtmZone.ofEpsg?_epsg inside
  rw [code, (Builtin.entries_uncoded entry member).2] at known
  cases known

/-- **Systems of one code** have definitions of one system. -/
theorem sameSystem_of_epsg (front : first.Standard) (back : second.Standard) {code : Nat}
    (here : first.epsg = some code) (there : second.epsg = some code) :
    Definition.SameSystem first.definition second.definition := by
  rcases front.coded with put | ⟨entry, member, rfl⟩
  · rcases back.coded with put' | ⟨other, member', rfl⟩
    · exact Or.inl ⟨code, put ▸ here, put' ▸ there⟩
    · exact absurd (put.symm.trans (here.trans there.symm)) (code_ne_of_zoneCode? member')
  · rcases back.coded with put' | ⟨other, member', rfl⟩
    · exact absurd (put'.symm.trans (there.trans here.symm)) (code_ne_of_zoneCode? member)
    · have codes : entry.code = other.code := Option.some.inj (here.trans there.symm)
      rw [Builtin.entries_eq_of_code entry member other member' codes]
      exact Or.inr (Definition.equivalent_refl _)

/-- **The codes of systems say nothing more than their definitions.** -/
theorem equivalent_iff (front : first.Standard) (back : second.Standard) :
    first.equivalent second = true ↔
      Definition.SameSystem first.definition second.definition := by
  rw [equivalent, Bool.or_eq_true, Bool.and_eq_true, beq_iff_eq, Option.isSome_iff_exists]
  constructor
  · rintro (⟨⟨code, here⟩, same⟩ | same)
    · exact front.sameSystem_of_epsg back here (same ▸ here)
    · exact Or.inr same
  · rintro (⟨code, here, there⟩ | same)
    · have coded := front.epsg_of_zoneCode? here
      exact Or.inl ⟨⟨code, coded⟩, coded.trans (back.epsg_of_zoneCode? there).symm⟩
    · exact Or.inr same

end Crs.Standard

/-! ### Systems that headers are resolved to -/

namespace Registry

/-- **Whatever a header is resolved to over what is built in** is a standard system. -/
theorem standard_of_resolve {header : String} {crs : Crs}
    (accepted : Registry.builtin.resolve header = .ok crs) : crs.Standard := by
  have ofText : ∀ text, Crs.ofProj4 text = .ok crs → crs.Standard := by
    intro text built
    obtain ⟨valid, same⟩ := Crs.eq_ofValid_of_ofProj4 built
    rw [same]
    exact .ofText valid
  obtain ⟨request, -, built⟩ := resolve_eq_ok_iff.mp accepted
  cases request with
  | utm datum zone hemisphere => exact ofText _ (build_utm datum zone hemisphere ▸ built)
  | proj4 text => exact ofText _ (build_proj4 text ▸ built)
  | epsg code =>
    rw [build_epsg] at built
    obtain ⟨number, entry, -, found, rfl⟩ := crsOfCode_eq_ok_iff.mp built
    rw [lookup_of_notAdded (by simp [Registry.builtin])] at found
    exact .ofCode found

/-- The systems that headers are resolved to over a registry. -/
def Resolved (registry : Registry) : Type :=
  {crs : Crs // ∃ header, registry.resolve header = .ok crs}

/-- **Over what is built in, being equivalent is an equivalence**, and such systems are used alike.
-/
theorem equivalent_equivalence :
    (Equivalence fun first second : Registry.builtin.Resolved =>
      first.1.equivalent second.1 = true) ∧
    ∀ first second : Registry.builtin.Resolved, first.1.equivalent second.1 = true →
      first.1.utmZone? = second.1.utmZone? ∧ first.1.isGeographic = second.1.isGeographic ∧
        first.1.areaOfUse? = second.1.areaOfUse? := by
  have standard : ∀ system : Registry.builtin.Resolved, system.1.Standard :=
    fun system => standard_of_resolve system.2.choose_spec
  have distinct : ∀ system : Registry.builtin.Resolved,
      (system.1.definition.parameters.map Parameter.key).Nodup :=
    fun system => (standard system).valid.wellFormed.distinct
  have equivalent_iff : ∀ first second : Registry.builtin.Resolved,
      first.1.equivalent second.1 = true ↔
        Definition.SameSystem first.1.definition second.1.definition :=
    fun first second => (standard first).equivalent_iff (standard second)
  simp only [equivalent_iff]
  refine ⟨⟨?_, ?_, ?_⟩, ?_⟩
  · intro system
    exact Or.inr (Definition.equivalent_refl _)
  · intro first second same
    exact same.symm (distinct first)
  · intro first second third front back
    exact front.trans (distinct first) (distinct second) back
  · intro first second same
    have alike := Crs.Alike.of_sameSystem (distinct first) same
    exact ⟨alike.utmZone, alike.isGeographic, alike.areaOfUse⟩

/-- Three headers for one zone: reordered, in words, and the same in its code only. -/
theorem equivalent_equivalence_zone :
    ∃ first second third,
      Registry.builtin.resolve "+no_defs +units=m +datum=WGS84 +zone=32 +proj=utm" = .ok first ∧
      Registry.builtin.resolve "WGS84 UTM 32N" = .ok second ∧
      Registry.builtin.resolve "+proj=utm +zone=032 +datum=WGS84 +units=us-ft" = .ok third ∧
      first.equivalent first = true ∧
      first.equivalent second = true ∧ second.equivalent first = true ∧
      second.equivalent third = true ∧ first.equivalent third = true ∧
      first.utmZone? = third.utmZone? ∧ first.areaOfUse? = third.areaOfUse? := by
  let first : Crs := ⟨⟨[.flag "no_defs", .assign "units" "m", .assign "datum" "WGS84",
    .assign "zone" "32", .assign "proj" "utm"]⟩, some 32632, none⟩
  let second : Crs := Crs.ofValid (Definition.ofZone "32" (some "True") .north)
  let third : Crs := ⟨⟨[.assign "proj" "utm", .assign "zone" "032", .assign "datum" "WGS84",
    .assign "units" "us-ft"]⟩, some 32632, none⟩
  have accepted : Registry.builtin.resolve
      "+no_defs +units=m +datum=WGS84 +zone=32 +proj=utm" = .ok first := by decide +kernel
  have accepted' : Registry.builtin.resolve "WGS84 UTM 32N" = .ok second := by decide +kernel
  have accepted'' : Registry.builtin.resolve
      "+proj=utm +zone=032 +datum=WGS84 +units=us-ft" = .ok third := by decide +kernel
  obtain ⟨equivalence, alike⟩ := equivalent_equivalence
  let one : Registry.builtin.Resolved := ⟨first, _, accepted⟩
  let two : Registry.builtin.Resolved := ⟨second, _, accepted'⟩
  let three : Registry.builtin.Resolved := ⟨third, _, accepted''⟩
  have front : first.equivalent second = true := by decide +kernel
  have back : second.equivalent third = true := by decide +kernel
  have across : first.equivalent third = true :=
    equivalence.trans (x := one) (y := two) (z := three) front back
  obtain ⟨zone, -, area⟩ := alike one three across
  exact ⟨first, second, third, accepted, accepted', accepted'', equivalence.refl one, front,
    equivalence.symm (x := one) (y := two) front, back, across, zone, area⟩

end Registry

end Georeference
