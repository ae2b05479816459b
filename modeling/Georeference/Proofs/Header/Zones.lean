/-
**A zone by its number and by its code.**

A header with a number and a letter is resolved through the text of a definition, and a header with
a code through what is built in. Both lead to the same system.

### The two headers

* `Crs.ofProj4_zoneText`: the system of the text that is made of a zone. There is one when the
  number is that of a zone, and otherwise the number is blamed.
* `Registry.resolve_zone`: what a header that asks for a zone is resolved to.
* `classify_code`, `Registry.resolve_code_of_zone`: what a header with the code of a zone is
  resolved to, in any case and with zeros in front of the code.

### The theorem

`Registry.zone_agrees_with_code`: a header that asks for a zone is accepted when its number is that
of a zone of the system, and otherwise the number is blamed. The system has that zone and its code.
It agrees with the one that is found under the code, however the header with the code is written,
unless something else was added under it.

**The proof is that the two definitions differ in their switches only.** The text of a zone has its
switches set to `True`, and what is built in has them set by being there, so they are one
`Definition.ofZone` with the switches set in two ways. The same number stands in both, and from the
definition follow the zone, the code and the area. That a header with a code asks for the code is
read off its characters: no letter of `epsg:` in any case is blank, and neither `WGS84` nor `+proj`
is made of such letters and digits.
-/

import Georeference.Proofs.Header.Classification
import Georeference.Proofs.Header.Resolution
import Georeference.Proofs.Registry.Zones

namespace Georeference

/-! ### The text of a zone -/

/-- The text of a zone is that of a definition. -/
theorem zoneText_eq (zone : Int) (hemisphere : Hemisphere) :
    zoneText "WGS84" zone hemisphere =
      (Definition.ofZone (toString zone) (some "True") hemisphere).text := by
  rw [← String.toList_inj, Definition.toList_text_ofZone]
  unfold zoneText
  generalize toString zone = numeral
  cases hemisphere with
  | north => simp [Parameter.toList_text]
  | south => simp [Parameter.toList_text]

/-- **The text of a zone** gives a system when there is such a zone. -/
theorem Crs.ofProj4_zoneText {zone : Int} (hemisphere : Hemisphere)
    (fits : -2147483648 ≤ zone ∧ zone < 2147483648) :
    Crs.ofProj4 (zoneText "WGS84" zone hemisphere) =
      if 1 ≤ zone ∧ zone ≤ 60 then
        .ok (Crs.ofValid (Definition.ofZone (toString zone) (some "True") hemisphere))
      else .error (.definition (.zone (toString zone))) := by
  have wellFormed : (Definition.ofZone (toString zone) (some "True") hemisphere).WellFormed :=
    Definition.ofZone_wellFormed (Decimal.Denotes.toString zone).shown (Or.inr rfl)
  have read := Decimal.boundedInteger?_long_toString fits
  rw [Crs.ofProj4, zoneText_eq, Definition.readValid_of_wellFormed wellFormed,
    Definition.validate_ofZone read]
  by_cases inside : 1 ≤ zone ∧ zone ≤ 60
  · rw [if_pos inside, if_pos inside]
  · rw [if_neg inside, if_neg inside]

theorem Crs.utmZone?_ofValid_zone {zone : Int} (hemisphere : Hemisphere)
    (inside : 1 ≤ zone ∧ zone ≤ 60) :
    (Crs.ofValid (Definition.ofZone (toString zone) (some "True") hemisphere)).utmZone? =
      some ⟨zone.toNat, hemisphere⟩ := by
  have fits : -2147483648 ≤ zone ∧ zone < 2147483648 := by omega
  have read := Decimal.boundedInteger?_long_toString fits
  rw [Crs.utmZone?_of_zone (Crs.definition_ofValid _) (Or.inr rfl), read, Option.bind_some]
  simp [UtmZone.ofNumber?, inside]

/-! ### Codes as headers -/

theorem toLower_of_blank {c : Char} (blank : Text.isBlank c = true) : c.toLower = c := by
  unfold Text.isBlank at blank
  simp only [Bool.or_eq_true, Bool.and_eq_true, decide_eq_true_eq, beq_iff_eq] at blank
  exact Text.toLower_of_outside (by omega)

theorem toLower_mem_of_spelled {word : List Char} (spelled : word.map Char.toLower = "epsg:".toList)
    {c : Char} (member : c ∈ word) : c.toLower ∈ "epsg:".toList := by
  rw [← spelled]
  exact List.mem_map_of_mem member

/-- **Digits behind `epsg:`**, which may be in any case, are a code. -/
theorem classify_code {word code : List Char} (spelled : word.map Char.toLower = "epsg:".toList)
    (digits : ∀ c ∈ code, c.isDigit = true) :
    classify (String.ofList (word ++ code)) = .ok (.epsg (String.ofList code)) := by
  have unblank : ∀ c ∈ "epsg:".toList, Text.isBlank c = false :=
    Text.any_isBlank_eq_false_iff.mp rfl
  have shown : ∀ c ∈ word ++ code, Text.isBlank c = false := by
    intro c member
    rcases List.mem_append.mp member with inWord | inCode
    · by_contra blank
      have inside := toLower_mem_of_spelled spelled inWord
      rw [toLower_of_blank (Bool.not_eq_false _ ▸ blank)] at inside
      exact blank (unblank c inside)
    · exact Decimal.Denotes.shown_of_isDigit (digits c inCode)
  have behind : (String.ofList code).toList = code := String.toList_ofList
  rw [classify_eq_epsg_iff, behind, String.toList_ofList, Text.trim_of_shown shown]
  refine ⟨fun named => ?_, fun mentioned => ?_, word, rfl, spelled⟩
  · have first := named.head?
    cases word with
    | nil => exact absurd spelled (by decide)
    | cons c rest =>
      have inside := toLower_mem_of_spelled spelled (List.mem_cons_self : c ∈ c :: rest)
      rw [Option.some.inj first] at inside
      exact absurd inside (by decide)
  · have plus : '+' ∈ word ++ code := mentioned.subset (by decide)
    rcases List.mem_append.mp plus with inWord | inCode
    · exact absurd (toLower_mem_of_spelled spelled inWord) (by decide)
    · exact absurd (digits '+' inCode) (by decide)

namespace Registry

variable {registry : Registry} {header : String}

/-- What a header that asks for a zone is resolved to. -/
theorem resolve_zone {datum : String} {zone : Int} {hemisphere : Hemisphere}
    (asked : classify header = .ok (.utm datum zone hemisphere)) :
    registry.resolve header =
      if 1 ≤ zone ∧ zone ≤ 60 then
        .ok (Crs.ofValid (Definition.ofZone (toString zone) (some "True") hemisphere))
      else .error ⟨header, .unbuilt (.definition (.zone (toString zone)))⟩ := by
  obtain ⟨rfl, numeral, letter, rest, writes, -⟩ := classify_eq_utm_iff.mp asked
  rw [resolve_of_request asked, build_utm, Crs.ofProj4_zoneText hemisphere writes.fits]
  by_cases inside : 1 ≤ zone ∧ zone ≤ 60
  · rw [if_pos inside, if_pos inside]
  · rw [if_neg inside, if_neg inside]

theorem resolve_zone_eq_ok_iff {datum : String} {zone : Int} {hemisphere : Hemisphere}
    (asked : classify header = .ok (.utm datum zone hemisphere)) {crs : Crs} :
    registry.resolve header = .ok crs ↔
      (1 ≤ zone ∧ zone ≤ 60) ∧
        Crs.ofValid (Definition.ofZone (toString zone) (some "True") hemisphere) = crs := by
  rw [resolve_zone asked]
  by_cases inside : 1 ≤ zone ∧ zone ≤ 60
  · rw [if_pos inside, Except.ok.injEq, and_iff_right inside]
  · rw [if_neg inside]
    exact iff_of_false (by simp) fun both => inside both.1

/-- **The code of a zone as a header**, in any case and with zeros in front of it. -/
theorem resolve_code_of_zone {zone : UtmZone} (inside : 1 ≤ zone.number ∧ zone.number ≤ 60)
    (notAdded : ∀ pair ∈ registry.added, pair.1 ≠ zone.epsg) {word : List Char}
    (spelled : word.map Char.toLower = "epsg:".toList) (zeros : Nat) :
    registry.resolve
        (String.ofList (word ++ (List.replicate zeros '0' ++ Nat.toDigits 10 zone.epsg))) =
      .ok (Builtin.zoneEntry zone).crs := by
  have read := Decimal.natural?_zeros_append zeros zone.epsg
  rw [resolve_eq_ok_iff]
  refine ⟨_, classify_code spelled (Decimal.natural?_eq_some_iff.mp read).1.2, ?_⟩
  rw [build_epsg, crsOfCode_eq_ok_iff]
  refine ⟨zone.epsg, Builtin.zoneEntry zone, ?_, ?_, rfl⟩
  · rw [readCode, String.toList_ofList, read]
    exact if_pos (UtmZone.epsg_lt inside)
  · rw [lookup_of_notAdded notAdded, Builtin.find?_zone inside]

/-- **A zone by its number and by its code.** -/
theorem zone_agrees_with_code {datum : String} {zone : Int} {hemisphere : Hemisphere}
    (asked : classify header = .ok (.utm datum zone hemisphere)) :
    ((∃ crs, registry.resolve header = .ok crs) ↔ 1 ≤ zone ∧ zone ≤ 60) ∧
    (¬ (1 ≤ zone ∧ zone ≤ 60) →
      registry.resolve header =
        .error ⟨header, .unbuilt (.definition (.zone (toString zone)))⟩) ∧
    ∀ crs, registry.resolve header = .ok crs →
      crs.utmZone? = some ⟨zone.toNat, hemisphere⟩ ∧
      (hemisphere = .north → crs.epsg = some (32600 + zone.toNat)) ∧
      (hemisphere = .south → crs.epsg = some (32700 + zone.toNat)) ∧
      ∀ code, crs.epsg = some code → (∀ pair ∈ registry.added, pair.1 ≠ code) →
        ∀ (word : List Char) (zeros : Nat), word.map Char.toLower = "epsg:".toList →
          ∃ known, registry.resolve
              (String.ofList (word ++ (List.replicate zeros '0' ++ Nat.toDigits 10 code))) =
                .ok known ∧
            crs.Agree known := by
  refine ⟨?_, ?_, ?_⟩
  · constructor
    · rintro ⟨crs, accepted⟩
      exact ((resolve_zone_eq_ok_iff asked).mp accepted).1
    · intro inside
      exact ⟨_, (resolve_zone_eq_ok_iff asked).mpr ⟨inside, rfl⟩⟩
  · intro outside
    rw [resolve_zone asked, if_neg outside]
  · intro crs accepted
    obtain ⟨inside, rfl⟩ := (resolve_zone_eq_ok_iff asked).mp accepted
    have utmZone := Crs.utmZone?_ofValid_zone hemisphere inside
    have epsg := Crs.epsg_ofValid_zone (toString zone) (some "True") hemisphere
    rw [utmZone, Option.map_some] at epsg
    refine ⟨utmZone, ?_, ?_, ?_⟩
    · rintro rfl
      exact epsg
    · rintro rfl
      exact epsg
    · intro code sameCode notAdded word zeros spelled
      rw [epsg, Option.some.injEq] at sameCode
      subst sameCode
      refine ⟨_, resolve_code_of_zone (by dsimp only; omega) notAdded spelled zeros, ?_⟩
      refine Crs.Agree.of_zones (Crs.definition_ofValid _) ?_ (Or.inr rfl) (Or.inl rfl) epsg
      have numeral : toString zone.toNat = toString zone := by
        rw [← Decimal.toString_natCast, Int.toNat_of_nonneg (by omega)]
      rw [← numeral]
      exact Builtin.zoneDefinition_eq _

/-- A signed zone with more text behind it, over a registry with another code. -/
theorem zone_agrees_with_code_near_lima :
    let registry := Registry.builtin.add ⟨2154, "Lambert", ⟨[.assign "proj" "lcc"]⟩⟩
    let header := "WGS84 UTM +018s near Lima"
    classify header = .ok (.utm "WGS84" 18 .south) ∧
      ∃ crs known, registry.resolve header = .ok crs ∧ crs.utmZone? = some ⟨18, .south⟩ ∧
        crs.epsg = some 32718 ∧ registry.resolve "ePsG:0032718" = .ok known ∧
          crs.Agree known := by
  intro registry header
  have asked : classify header = .ok (.utm "WGS84" 18 .south) := by decide +kernel
  obtain ⟨accepted, -, found⟩ := zone_agrees_with_code asked
  obtain ⟨crs, success⟩ : ∃ crs, registry.resolve header = .ok crs := accepted.mpr (by decide)
  obtain ⟨zone, -, epsg, again⟩ := found crs success
  have code : crs.epsg = some 32718 := epsg rfl
  obtain ⟨known, resolved, agree⟩ :=
    again 32718 code (by decide) "ePsG:".toList 2 (by decide)
  have written : String.ofList ("ePsG:".toList ++
      (List.replicate 2 '0' ++ Nat.toDigits 10 32718)) = "ePsG:0032718" := by decide +kernel
  rw [written] at resolved
  exact ⟨asked, crs, known, success, zone, code, resolved, agree⟩

end Registry

end Georeference
