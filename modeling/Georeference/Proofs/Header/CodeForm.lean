/-
**The code of a system as a header.**

A system that has a code is shown as `EPSG:` and the code. Whatever a header was resolved to, that
text can be used as a header in its place.

### Codes of systems

* `Registry.exists_entry_of_ofProj4`: a code that is put on a definition is that of a zone, which is
  always known.
* `Registry.exists_entry_of_coded`: the code of any system that a header is resolved to is looked up
  as an entry.
* `Registry.resolve_codeForm`: what the code of an entry is resolved to, as a header.

### The theorem

`Registry.resolve_text_of_coded` is about any registry that there can be. When a header is resolved
to a system with a code, the code is looked up as some entry. The system is shown as that code, and
what it is shown as is resolved to the system of the entry, which has the same code and is shown in
the same way, and the two are equivalent.

**The proof is by where the code comes from.** A system that is built from a text has the code of a
zone from 1 to 60, and no such code can be missing from what is built in, even if something else was
added under it. A system that is looked up has the code it was looked up by. Codes of a registry
that there can be fit into a word of 32 bits, so their digits are a text that denotes them. Systems
of one code are equivalent whatever their definitions are, which is why the definitions are those of
the entry and may be different.
-/

import Georeference.Proofs.Crs.Interchange
import Georeference.Proofs.Header.Zones
import Georeference.Proofs.Registry.Codes
import Georeference.Proofs.Registry.CodeText

namespace Georeference

namespace Crs

variable {crs : Crs} {code : Nat}

theorem text_of_coded (coded : crs.epsg = some code) : crs.text = "EPSG:" ++ toString code := by
  rw [text, coded]

/-- Systems of one code are equivalent. -/
theorem equivalent_of_coded {other : Crs} (coded : crs.epsg = some code)
    (coded' : other.epsg = some code) : crs.equivalent other = true := by
  rw [equivalent, coded, coded']
  simp

end Crs

namespace Registry

variable {registry : Registry} {header : String} {crs : Crs} {code : Nat} {entry : Entry}

/-- **A code that is put on a definition is known**: it is that of a zone. -/
theorem exists_entry_of_ofProj4 (registry : Registry) {text : String}
    (built : Crs.ofProj4 text = .ok crs) (coded : crs.epsg = some code) :
    ∃ entry, registry.lookup code = some entry := by
  obtain ⟨-, same⟩ := Crs.eq_ofValid_of_ofProj4 built
  rw [same] at coded
  obtain ⟨-, zone, found, rfl⟩ := Definition.zoneCode?_eq_some_iff.mp coded
  obtain ⟨-, -, -, inside⟩ := Crs.utmZone?_eq_some_iff.mp found
  refine mem_codes_iff.mp (mem_codes_iff_added.mpr (Or.inl ?_))
  exact Builtin.mem_codes_iff.mpr ⟨_, Builtin.find?_zone inside⟩

/-- **The code of a system is known** to its registry. -/
theorem exists_entry_of_coded (accepted : registry.resolve header = .ok crs)
    (coded : crs.epsg = some code) : ∃ entry, registry.lookup code = some entry := by
  obtain ⟨request, -, built⟩ := resolve_eq_ok_iff.mp accepted
  cases request with
  | utm datum zone hemisphere =>
    exact registry.exists_entry_of_ofProj4 (build_utm datum zone hemisphere ▸ built) coded
  | proj4 text => exact registry.exists_entry_of_ofProj4 (build_proj4 text ▸ built) coded
  | epsg text =>
    rw [build_epsg] at built
    obtain ⟨number, entry, -, found, rfl⟩ := crsOfCode_eq_ok_iff.mp built
    obtain rfl : entry.code = code := Option.some.inj coded
    exact ⟨entry, code_of_lookup found ▸ found⟩

theorem classify_codeForm (code : Nat) :
    classify ("EPSG:" ++ toString code) = .ok (.epsg (toString code)) := by
  have spelled : "EPSG:".toList.map Char.toLower = "epsg:".toList := by decide
  have asked := classify_code spelled (Decimal.digits_toDigits code).2
  rwa [← Decimal.toList_toString, ← String.toList_append, String.ofList_toList,
    String.ofList_toList] at asked

/-- **The code of an entry as a header** is resolved to its system. -/
theorem resolve_codeForm (found : registry.lookup code = some entry)
    (fits : code < UInt32.size) :
    registry.resolve ("EPSG:" ++ toString code) = .ok entry.crs := by
  refine resolve_eq_ok_iff.mpr ⟨_, classify_codeForm code, ?_⟩
  rw [build_epsg, crsOfCode_of_denotes (DenotesCode.toString fits), found]

/-- **A system that has a code is shown as a header for it.** -/
theorem resolve_text_of_coded (reachable : registry.Reachable)
    (accepted : registry.resolve header = .ok crs) (coded : crs.epsg = some code) :
    crs.text = "EPSG:" ++ toString code ∧
    ∃ entry again, registry.lookup code = some entry ∧ registry.resolve crs.text = .ok again ∧
      again.epsg = some code ∧ again.equivalent crs = true ∧ crs.equivalent again = true ∧
      again.name = some entry.name ∧ again.definition = entry.definition ∧
      again.text = crs.text := by
  have shown := Crs.text_of_coded coded
  obtain ⟨entry, found⟩ := exists_entry_of_coded accepted coded
  have fits : code < UInt32.size :=
    reachable.sound.codes_fit code (mem_codes_iff.mpr ⟨entry, found⟩)
  have again : entry.crs.epsg = some code := congrArg some (code_of_lookup found)
  refine ⟨shown, entry, entry.crs, found, ?_, again, Crs.equivalent_of_coded again coded,
    Crs.equivalent_of_coded coded again, rfl, rfl, ?_⟩
  · rw [shown]
    exact resolve_codeForm found fits
  · rw [shown, Crs.text_of_coded again]

/-- A text in another order, over a registry that overrides its code. -/
theorem resolve_text_of_coded_overridden :
    let entry : Entry := ⟨32632, "Degrees", Builtin.geographic (.assign "datum" "WGS84")⟩
    let registry := Registry.builtin.add entry
    registry.Reachable ∧ ∃ crs,
      registry.resolve "+zone=+032 +proj=utm +datum=WGS84" = .ok crs ∧ crs.text = "EPSG:32632" ∧
      registry.resolve "EPSG:32632" = .ok entry.crs ∧ crs.equivalent entry.crs = true ∧
      crs.definition ≠ entry.definition := by
  intro entry registry
  have reachable : registry.Reachable := by
    let system : SystemDefinition := ⟨32632, "Degrees", "+proj=longlat +datum=WGS84 +no_defs"⟩
    have success : Registry.builtin.define [system] = .ok registry := by decide +kernel
    exact .define .builtin (by decide) success
  let crs : Crs := ⟨⟨[.assign "zone" "+032", .assign "proj" "utm", .assign "datum" "WGS84"]⟩,
    some 32632, none⟩
  have accepted : registry.resolve "+zone=+032 +proj=utm +datum=WGS84" = .ok crs := by
    decide +kernel
  obtain ⟨shown, found, again, looked, resolved, code, -, same, name, definition, -⟩ :=
    resolve_text_of_coded reachable accepted (rfl : crs.epsg = some 32632)
  obtain rfl : entry = found := Option.some.inj looked
  obtain rfl : again = entry.crs := by
    obtain ⟨parameters, epsg, known⟩ := again
    dsimp only at code name definition
    rw [code, name, definition]
    rfl
  have written : crs.text = "EPSG:32632" := shown
  rw [written] at resolved
  exact ⟨reachable, crs, accepted, written, resolved, same, by decide⟩

end Registry

end Georeference
