/-
**What a header is resolved to over a registry.**

The standard resolver asks the registry for what a header asks of it, and wraps what fails.

### Requests

`Registry.build_utm`, `Registry.build_proj4` and `Registry.build_epsg` are the answers to the three
kinds of request: the first two are systems built from a text, and the third one is a lookup.

### Headers

* `Registry.resolve_eq_ok_iff`: a header is accepted when it asks for something that the registry
  builds.
* `Registry.resolve_eq_error_iff`: it is refused when it asks for nothing, or for something that the
  registry does not build, and the error keeps the header.
* `Registry.resolve_eq_resolve_iff`: so it is answered alike over two registries only where its
  request is.

### What comes out

* `Registry.Reachable.valid_of_resolve`: whatever a header is resolved to has a valid definition.
  Unless the header asks for a code, nothing but the definition goes into the system.
* `Registry.resolve_proj4`: a header that asks for the text of a valid definition is resolved to it.

**The proof is by the request.** The log of the standard resolver keeps nothing, so what is left of
resolving is reading the header and asking the registry. An answer is passed on as it is, and an
error together with the header, from which it can be taken again. A definition that comes from a
text was checked when it was read, and one that comes from a lookup when it was offered to the
registry.
-/

import Georeference.Header.Resolver
import Georeference.Proofs.Registry.Reachable

namespace Georeference

theorem Crs.ofProj4_eq_ok_iff {text : String} {crs : Crs} :
    Crs.ofProj4 text = .ok crs ↔
      ∃ definition, Definition.readValid text = .ok definition ∧ Crs.ofValid definition = crs := by
  unfold Crs.ofProj4
  cases Definition.readValid text with
  | error fault => simp
  | ok definition => simp

theorem Crs.definition_ofValid (definition : Definition) :
    (Crs.ofValid definition).definition = definition := by
  unfold Crs.ofValid
  dsimp only
  split <;> rfl

/-- **A system built from a text** is made from a valid definition. -/
theorem Crs.eq_ofValid_of_ofProj4 {text : String} {crs : Crs} (built : Crs.ofProj4 text = .ok crs) :
    crs.definition.Valid ∧ crs = Crs.ofValid crs.definition := by
  obtain ⟨definition, read, rfl⟩ := Crs.ofProj4_eq_ok_iff.mp built
  rw [Crs.definition_ofValid]
  exact ⟨Definition.valid_of_readValid read, rfl⟩

namespace Registry

variable {registry : Registry} {header : String}

/-! ### One request -/

theorem build_utm (datum : String) (zone : Int) (hemisphere : Hemisphere) :
    registry.resolver.build (.utm datum zone hemisphere) =
      Crs.ofProj4 (zoneText datum zone hemisphere) := by
  dsimp only [resolver, Resolver.build, builder, pure]

theorem build_proj4 (text : String) :
    registry.resolver.build (.proj4 text) = Crs.ofProj4 text := by
  dsimp only [resolver, Resolver.build, builder, pure]

theorem build_epsg (code : String) :
    registry.resolver.build (.epsg code) = registry.crsOfCode code := by
  dsimp only [resolver, Resolver.build, builder, pure]

/-! ### One header -/

theorem resolve_of_fault {fault : HeaderFault} (unread : classify header = .error fault) :
    registry.resolve header = .error ⟨header, .unread fault⟩ := by
  unfold Registry.resolve Resolver.resolve Resolver.attempt
  rw [unread]
  rfl

/-- A header is resolved to what the registry answers. -/
theorem resolve_of_request {request : Request} (asked : classify header = .ok request) :
    registry.resolve header =
      match registry.resolver.build request with
      | .error cause => .error ⟨header, .unbuilt cause⟩
      | .ok crs => .ok crs := by
  unfold Registry.resolve Resolver.resolve Resolver.attempt
  rw [asked]
  dsimp only [bind, pure, Id.run]
  cases registry.resolver.build request with
  | error cause => rfl
  | ok crs => rfl

/-- **A header is accepted** when it asks for something that the registry builds. -/
theorem resolve_eq_ok_iff {crs : Crs} :
    registry.resolve header = .ok crs ↔
      ∃ request, classify header = .ok request ∧ registry.resolver.build request = .ok crs := by
  cases asked : classify header with
  | error fault =>
    rw [resolve_of_fault asked]
    simp
  | ok request =>
    rw [resolve_of_request asked]
    cases built : registry.resolver.build request with
    | error cause => simp [built]
    | ok found =>
      constructor
      · intro same
        rw [← Except.ok.inj same]
        exact ⟨request, rfl, built⟩
      · rintro ⟨other, same, answer⟩
        rw [← Except.ok.inj same, built] at answer
        exact congrArg Except.ok (Except.ok.inj answer)

/-- **A header is refused** when it asks for nothing, or for nothing that is built. -/
theorem resolve_eq_error_iff {error : HeaderError} :
    registry.resolve header = .error error ↔
      (∃ fault, classify header = .error fault ∧ error = ⟨header, .unread fault⟩) ∨
        ∃ request cause, classify header = .ok request ∧
          registry.resolver.build request = .error cause ∧ error = ⟨header, .unbuilt cause⟩ := by
  constructor
  · intro refused
    cases asked : classify header with
    | error fault =>
      rw [resolve_of_fault asked] at refused
      exact Or.inl ⟨fault, rfl, (Except.error.inj refused).symm⟩
    | ok request =>
      rw [resolve_of_request asked] at refused
      cases built : registry.resolver.build request with
      | error cause =>
        rw [built] at refused
        exact Or.inr ⟨request, cause, rfl, built, (Except.error.inj refused).symm⟩
      | ok crs =>
        rw [built] at refused
        cases refused
  · rintro (⟨fault, unread, rfl⟩ | ⟨request, cause, asked, built, rfl⟩)
    · exact resolve_of_fault unread
    · rw [resolve_of_request asked, built]

/-- **Answers are alike** only where requests are answered alike. -/
theorem resolve_eq_resolve_iff {other : Registry} {request : Request}
    (asked : classify header = .ok request) :
    registry.resolve header = other.resolve header ↔
      registry.resolver.build request = other.resolver.build request := by
  have injective : Function.Injective fun answer : Except BuildError Crs =>
      match answer with
      | .error cause => Except.error (HeaderError.mk header (.unbuilt cause))
      | .ok crs => .ok crs := by
    rintro (cause | crs) (cause' | crs') same
    · simpa using same
    · cases same
    · cases same
    · simpa using same
  rw [resolve_of_request asked, resolve_of_request asked]
  exact injective.eq_iff

theorem crsOfCode_eq_ok_iff {code : String} {crs : Crs} :
    registry.crsOfCode code = .ok crs ↔
      ∃ number entry, readCode code = .ok number ∧ registry.lookup number = some entry ∧
        entry.crs = crs := by
  unfold crsOfCode
  cases readCode code with
  | error fault => simp
  | ok number =>
    cases found : registry.lookup number with
    | none => simp [found]
    | some entry => simp [found]

/-- **Whatever a header is resolved to** has a valid definition. -/
theorem Reachable.valid_of_resolve (reachable : registry.Reachable) {crs : Crs}
    (accepted : registry.resolve header = .ok crs) :
    crs.definition.Valid ∧
      ((∀ code, classify header ≠ .ok (.epsg code)) → crs = Crs.ofValid crs.definition) := by
  obtain ⟨request, asked, built⟩ := resolve_eq_ok_iff.mp accepted
  cases request with
  | utm datum zone hemisphere =>
    rw [build_utm] at built
    obtain ⟨valid, same⟩ := Crs.eq_ofValid_of_ofProj4 built
    exact ⟨valid, fun _ => same⟩
  | proj4 text =>
    rw [build_proj4] at built
    obtain ⟨valid, same⟩ := Crs.eq_ofValid_of_ofProj4 built
    exact ⟨valid, fun _ => same⟩
  | epsg code =>
    rw [build_epsg] at built
    obtain ⟨number, entry, -, found, rfl⟩ := crsOfCode_eq_ok_iff.mp built
    exact ⟨reachable.valid_of_lookup found, fun other => absurd asked (other code)⟩

/-- **A header that asks for the text of a valid definition** is resolved to it. -/
theorem resolve_proj4 {definition : Definition} (valid : definition.Valid)
    (asked : classify header = .ok (.proj4 definition.text)) :
    registry.resolve header = .ok (Crs.ofValid definition) := by
  rw [resolve_eq_ok_iff]
  refine ⟨_, asked, ?_⟩
  rw [build_proj4]
  exact Crs.ofProj4_eq_ok_iff.mpr ⟨definition, Definition.readValid_text valid, rfl⟩

end Registry

end Georeference
