/-
**Which refused headers more systems would help.**

A header is helped when systems can be offered to the registry, all of them acceptable, over which
it is resolved (`Registry.CanLearn`). A refusal carries a mark that is meant to tell this, and says
less.

### The cause of a refusal

* `Registry.refused_cases`: a refused header asks for a text that denotes no code, or for a code
  that is not known, or for no code at all.
* `Registry.isRegistryMiss_iff`, `Registry.isRegistryMiss_iff_blamed`: the mark is set in the first
  two cases.
* `Registry.canLearn_iff`: the header is helped in the second one.

### The theorem

`Registry.registryMiss_iff_canLearn`: a refused header is helped exactly when it is blamed for a
code that is not known. The mark is set then, and also where the header is blamed for a text that
denotes no code; so it tells whether the header is helped exactly where the blame is another one. A
text is blamed in that way when the header asks for it and it is no run of ASCII digits for a word
of 32 bits.

**The proof is by the three causes.** Any code that a text denotes can be taught, because one system
can be offered under any code (`Registry.canLearn_of_denotes`). In the other two cases the header
makes no difference between any two registries, so what refuses it goes on doing so
(`Registry.not_canLearn_of_alike`). No header is blamed both for a text and for a code.
-/

import Georeference.Proofs.Header.Dependence
import Georeference.Proofs.Registry.Offers

namespace Georeference

namespace Registry

open HeaderError (buildError? isRegistryMiss)

variable {registry : Registry} {header text : String} {code : Nat} {error : HeaderError}

/-- Acceptable systems can be offered over which the header is resolved. -/
def CanLearn (registry : Registry) (header : String) : Prop :=
  ∃ systems extended crs, (∀ system ∈ systems, system.code < UInt32.size) ∧
    registry.define systems = .ok extended ∧ extended.resolve header = .ok crs

/-! ### The cause of a refusal -/

/-- A text that is refused as a definition is no failed lookup. -/
theorem isEpsgError_of_ofProj4 {cause : BuildError} (refused : Crs.ofProj4 text = .error cause) :
    cause.isEpsgError = false := by
  unfold Crs.ofProj4 at refused
  split at refused
  · rw [← Except.error.inj refused]
    rfl
  · cases refused

/-- **Why a header is refused**, as far as codes are concerned. -/
theorem refused_cases (refused : registry.resolve header = .error error) :
    (∃ text, classify header = .ok (.epsg text) ∧ (∀ code, ¬ DenotesCode text code) ∧
        error.buildError? = some (.codeText text)) ∨
      (∃ text code, classify header = .ok (.epsg text) ∧ DenotesCode text code ∧
        registry.lookup code = none ∧ error.buildError? = some (.unknownCode code)) ∨
      (∀ text, classify header ≠ .ok (.epsg text)) ∧
        ∀ cause, error.buildError? = some cause → cause.isEpsgError = false := by
  rcases resolve_eq_error_iff.mp refused with
    ⟨fault, unread, rfl⟩ | ⟨request, cause, asked, built, rfl⟩
  · refine Or.inr (Or.inr ⟨fun text asked => ?_, fun cause blamed => ?_⟩)
    · rw [unread] at asked
      cases asked
    · cases blamed
  · have blamed : ∀ other, buildError? ⟨header, .unbuilt cause⟩ = some other → other = cause :=
      fun other same => (Option.some.inj same).symm
    cases request with
    | utm datum zone hemisphere =>
      refine Or.inr (Or.inr ⟨by simp [asked], fun other same => ?_⟩)
      rw [blamed other same]
      exact isEpsgError_of_ofProj4 (build_utm datum zone hemisphere ▸ built)
    | proj4 text =>
      refine Or.inr (Or.inr ⟨by simp [asked], fun other same => ?_⟩)
      rw [blamed other same]
      exact isEpsgError_of_ofProj4 (build_proj4 text ▸ built)
    | epsg text =>
      rw [build_epsg] at built
      rcases crsOfCode_eq_error_iff.mp built with ⟨undenoted, rfl⟩ | ⟨code, denotes, unknown, rfl⟩
      · exact Or.inl ⟨text, asked, undenoted, rfl⟩
      · exact Or.inr (Or.inl ⟨text, code, asked, denotes, unknown, rfl⟩)

/-- **The mark of a refusal** is set when a code is asked for. -/
theorem isRegistryMiss_iff (refused : registry.resolve header = .error error) :
    error.isRegistryMiss = true ↔ ∃ text, classify header = .ok (.epsg text) := by
  rw [isRegistryMiss]
  rcases refused_cases refused with
    ⟨text, asked, -, blamed⟩ | ⟨text, code, asked, -, -, blamed⟩ | ⟨other, unmarked⟩
  · rw [blamed]
    exact iff_of_true rfl ⟨text, asked⟩
  · rw [blamed]
    exact iff_of_true rfl ⟨text, asked⟩
  · refine iff_of_false ?_ (not_exists.mpr other)
    cases blamed : error.buildError? with
    | none => simp
    | some cause => simp [unmarked cause blamed]

/-- **The mark by the blame**: a code that is not known, or a text. -/
theorem isRegistryMiss_iff_blamed (refused : registry.resolve header = .error error) :
    error.isRegistryMiss = true ↔
      (∃ code, error.buildError? = some (.unknownCode code)) ∨
        ∃ text, error.buildError? = some (.codeText text) := by
  rw [isRegistryMiss_iff refused]
  rcases refused_cases refused with
    ⟨text, asked, -, blamed⟩ | ⟨text, code, asked, -, -, blamed⟩ | ⟨other, unmarked⟩
  · exact iff_of_true ⟨text, asked⟩ (Or.inr ⟨text, blamed⟩)
  · exact iff_of_true ⟨text, asked⟩ (Or.inl ⟨code, blamed⟩)
  · refine iff_of_false (not_exists.mpr other) ?_
    rintro (⟨code, blamed⟩ | ⟨text, blamed⟩)
    · cases unmarked _ blamed
    · cases unmarked _ blamed

/-- A text that denotes no code is blamed when it is asked for. -/
theorem buildError?_eq_codeText_iff (refused : registry.resolve header = .error error) :
    error.buildError? = some (.codeText text) ↔
      classify header = .ok (.epsg text) ∧ ∀ code, ¬ DenotesCode text code := by
  rcases refused_cases refused with
    ⟨found, asked, undenoted, blamed⟩ | ⟨found, code, asked, denotes, -, blamed⟩ | ⟨other, unmarked⟩
  · rw [blamed, asked]
    simp only [Option.some.injEq, BuildError.codeText.injEq, Except.ok.injEq, Request.epsg.injEq]
    exact ⟨fun same => ⟨same, same ▸ undenoted⟩, And.left⟩
  · rw [blamed, asked]
    refine iff_of_false (by simp) fun both => ?_
    obtain rfl : found = text := by simpa using both.1
    exact both.2 code denotes
  · refine iff_of_false (fun blamed => ?_) fun both => other text both.1
    cases unmarked _ blamed

/-! ### Help -/

/-- A system that can be offered under any code. -/
def anySystem (code : Nat) : SystemDefinition := ⟨code, "", "+proj=longlat"⟩

theorem anySystem_describes (code : Nat) :
    (anySystem code).Describes ⟨[.assign "proj" "longlat"]⟩ := by
  have read : Definition.read "+proj=longlat" = .ok ⟨[.assign "proj" "longlat"]⟩ := by
    decide +kernel
  exact ⟨read, by decide⟩

/-- **A code can be taught** by a system that is offered under it. -/
theorem canLearn_of_denotes (asked : classify header = .ok (.epsg text))
    (denotes : DenotesCode text code) : registry.CanLearn header := by
  let entry : Entry := ⟨code, "", ⟨[.assign "proj" "longlat"]⟩⟩
  have accepted : (anySystem code).entry = .ok entry :=
    SystemDefinition.entry_of_describes (anySystem_describes code)
  have success : registry.define [anySystem code] = .ok (registry.add entry) :=
    define_cons_of_entry accepted
  have found : (registry.add entry).lookup code = some entry := by
    rw [lookup_add, if_pos rfl]
  refine ⟨[anySystem code], _, entry.crs, ?_, success, ?_⟩
  · exact List.forall_mem_singleton.mpr denotes.fits
  · rw [resolve_eq_ok_iff]
    refine ⟨_, asked, ?_⟩
    rw [build_epsg, crsOfCode_of_denotes denotes, found]

/-- **A header that makes no difference** to any two registries is not helped. -/
theorem not_canLearn_of_alike (refused : registry.resolve header = .error error)
    (alike : ∀ extended, registry.AlikeFor extended header) : ¬ registry.CanLearn header := by
  rintro ⟨systems, extended, crs, -, -, resolved⟩
  have same : registry.resolve header = extended.resolve header :=
    (alike extended).resolve (.silent Id)
  rw [refused, resolved] at same
  cases same

/-- **The refused headers that are helped** are those of which the code is not known. -/
theorem canLearn_iff (refused : registry.resolve header = .error error) :
    registry.CanLearn header ↔ ∃ code, error.buildError? = some (.unknownCode code) := by
  rcases refused_cases refused with
    ⟨text, asked, undenoted, blamed⟩ | ⟨text, code, asked, denotes, -, blamed⟩ | ⟨other, unmarked⟩
  · refine iff_of_false
      (not_canLearn_of_alike refused fun extended => .undenoted asked undenoted) ?_
    simp [blamed]
  · exact iff_of_true (canLearn_of_denotes asked denotes) ⟨code, blamed⟩
  · refine iff_of_false (not_canLearn_of_alike refused fun extended => .uncoded other) ?_
    rintro ⟨code, blamed⟩
    cases unmarked _ blamed

/-- **The mark of a refusal, and the help that there is.** -/
theorem registryMiss_iff_canLearn (refused : registry.resolve header = .error error) :
    (registry.CanLearn header ↔ ∃ code, error.buildError? = some (.unknownCode code)) ∧
    (error.isRegistryMiss = true ↔
      registry.CanLearn header ∨ ∃ text, error.buildError? = some (.codeText text)) ∧
    (∀ text, error.buildError? = some (.codeText text) ↔
      classify header = .ok (.epsg text) ∧ ∀ code, ¬ DenotesCode text code) ∧
    ((error.isRegistryMiss = true ↔ registry.CanLearn header) ↔
      ∀ text, error.buildError? ≠ some (.codeText text)) := by
  have helped := canLearn_iff refused
  have marked : error.isRegistryMiss = true ↔
      registry.CanLearn header ∨ ∃ text, error.buildError? = some (.codeText text) :=
    (isRegistryMiss_iff_blamed refused).trans (or_congr_left helped.symm)
  refine ⟨helped, marked, fun text => buildError?_eq_codeText_iff refused, ?_⟩
  rw [marked, helped]
  constructor
  · intro exact text blamed
    obtain ⟨code, same⟩ := exact.mp (Or.inr ⟨text, blamed⟩)
    rw [blamed] at same
    cases same
  · intro other
    exact or_iff_left (not_exists.mpr other)

/-- A code that is not known and a text with a sign carry one mark. -/
theorem registryMiss_iff_canLearn_signed :
    let registry := Registry.builtin.add ⟨2154, "Lambert", ⟨[.assign "proj" "lcc"]⟩⟩
    (∃ error, registry.resolve "EPSG:27700" = .error error ∧ error.isRegistryMiss = true ∧
      registry.CanLearn "EPSG:27700") ∧
    ∃ error, registry.resolve "EPSG:+2154" = .error error ∧ error.isRegistryMiss = true ∧
      ¬ registry.CanLearn "EPSG:+2154" := by
  intro registry
  constructor
  · have refused : registry.resolve "EPSG:27700" =
        .error ⟨"EPSG:27700", .unbuilt (.unknownCode 27700)⟩ := by decide +kernel
    obtain ⟨helped, marked, -⟩ := registryMiss_iff_canLearn refused
    have teachable := helped.mpr ⟨27700, rfl⟩
    exact ⟨_, refused, marked.mpr (Or.inl teachable), teachable⟩
  · have refused : registry.resolve "EPSG:+2154" =
        .error ⟨"EPSG:+2154", .unbuilt (.codeText "+2154")⟩ := by decide +kernel
    obtain ⟨helped, marked, -⟩ := registryMiss_iff_canLearn refused
    refine ⟨_, refused, marked.mpr (Or.inr ⟨"+2154", rfl⟩), fun teachable => ?_⟩
    obtain ⟨code, blamed⟩ := helped.mp teachable
    cases blamed

end Registry

end Georeference
