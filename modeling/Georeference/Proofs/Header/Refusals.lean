/-
**What is blamed for a refusal, notation by notation.**

A header in the notation of a zone is refused for its number only. A header with a code is refused
for the text of the code or because the code is not known, and a text for what is wrong with the
definition in it, but never because there is none.

### Definitions

* `Definition.validate_eq_error_iff`: a definition does not pass when its projection is not named
  well, or when that is `utm` and there is no such zone.
* `Definition.readValid_eq_error_iff`: reading and checking fails when either does.

### Headers

* `Registry.Blames`: what is blamed for a refusal, by what the header asks for.
* `Registry.resolve_eq_error_iff_blames`: that and nothing else is.
* `Registry.refusal_by_request`: how far the kind of a refusal tells the notation. It has no error
  of the builder exactly when the header asks for nothing, and one of looking up a code exactly when
  the header asks for a code. It is never one of a definition that was offered to the registry.

**The proof is by the request, in both directions.** The text that is made of a zone is that of a
definition whatever the number is, so only the number can be wrong with it. A text that a header
asks for has `+proj` in it, and a plus sign is left of that when its quotes are dropped
(`plus_mem_of_asked`). So it has a word and is not an empty definition. What else can be wrong with
it is known from reading and checking.
-/

import Georeference.Proofs.Crs.AreaOfUse
import Georeference.Proofs.Definition.Faults
import Georeference.Proofs.Header.Zones
import Georeference.Proofs.Registry.CodeText

namespace Georeference

/-! ### What is wrong with a definition -/

namespace Definition

variable {definition : Definition} {fault : DefinitionFault} {text : String}

/-- The value of `zone` denotes no number of a zone. -/
def NoZone (numeral : String) : Prop :=
  ∀ number, Decimal.Denotes numeral.toList number → ¬ (1 ≤ number ∧ number ≤ 60)

theorem validateZone_of_noZone {numeral : String} (given : definition.get? "zone" = some numeral)
    (noZone : NoZone numeral) : definition.validateZone = .error (.zone numeral) := by
  have absent : (definition.zoneNumber?.bind fun number =>
      UtmZone.ofNumber? number .north) = none := by
    rw [Option.bind_eq_none_iff]
    intro number read
    have inside : ¬ (1 ≤ number ∧ number ≤ 60) := by
      rw [zoneNumber?, given] at read
      exact noZone number (Decimal.boundedInteger?_eq_some_iff.mp read).1
    rw [UtmZone.ofNumber?, if_neg (by simpa using inside)]
  rw [validateZone, given, absent]

/-- **No zone is allowed** when none is given, or one that there is not. -/
theorem validateZone_eq_error_iff :
    definition.validateZone = .error fault ↔
      (definition.get? "zone" = none ∧ fault = .missingZone) ∨
        ∃ numeral, definition.get? "zone" = some numeral ∧ NoZone numeral ∧
          fault = .zone numeral := by
  cases given : definition.get? "zone" with
  | none =>
    rw [validateZone, given]
    simp [eq_comm]
  | some numeral =>
    simp only [reduceCtorEq, false_and, false_or, Option.some.injEq, exists_eq_left']
    by_cases noZone : NoZone numeral
    · rw [validateZone_of_noZone given noZone, Except.error.injEq, and_iff_right noZone, eq_comm]
    · refine iff_of_false (fun refused => noZone fun number denotes inside => ?_)
        fun both => noZone both.1
      have passes := validateZone_eq_ok_iff.mpr
        ⟨number, (zoneNumber?_eq_some_iff inside).mpr ⟨numeral, given, denotes⟩, inside⟩
      rw [passes] at refused
      cases refused

/-- **A definition does not pass** for the name of its projection, or its zone. -/
theorem validate_eq_error_iff :
    definition.validate = .error fault ↔
      (isProjectionName definition.projection = false ∧
        fault = .projectionName definition.projection) ∨
      (definition.projection = "utm" ∧ definition.validateZone = .error fault) := by
  unfold validate
  cases named : isProjectionName definition.projection with
  | false =>
    have other : definition.projection ≠ "utm" := by
      intro same
      rw [same, isProjectionName_utm] at named
      cases named
    simp [other, eq_comm]
  | true =>
    by_cases utm : definition.projection = "utm"
    · simp [utm]
    · simp [utm]

/-- Reading and checking fails when either does. -/
theorem readValid_eq_error_iff :
    readValid text = .error fault ↔
      (∃ error, read text = .error error ∧ fault = .malformed error) ∨
        ∃ definition, read text = .ok definition ∧ definition.validate = .error fault := by
  unfold readValid
  cases read text with
  | error error => simp [eq_comm]
  | ok definition =>
    cases allowed : definition.validate with
    | error other => simp [allowed]
    | ok passed => simp [allowed]

/-- **A text with a word is not an empty definition.** -/
theorem read_ne_empty (worded : Text.words text.toList ≠ []) : read text ≠ .error .empty := by
  intro refused
  obtain ⟨words, runs, yields⟩ := read_yields text
  have found : Yields words (.error .empty) := (yields _).mp refused
  obtain rfl : Text.words text.toList = words := ((runs words).mpr rfl).words_eq
  cases found with
  | fault _ _ fault => cases fault
  | empty wordless => exact worded wordless

end Definition

/-! ### Texts in headers -/

theorem words_ne_nil_of_mem {text : List Char} {c : Char} (member : c ∈ text)
    (shown : Text.isBlank c = false) : Text.words text ≠ [] := by
  intro wordless
  have inside : c ∈ (Text.words text).flatten := by
    rw [Text.flatten_words, List.mem_filter]
    exact ⟨member, by simp [shown]⟩
  rw [wordless] at inside
  cases inside

/-- **A plus sign is left** when the quotes of a text are dropped. -/
theorem plus_mem_of_asked {header text : String} (asked : classify header = .ok (.proj4 text)) :
    '+' ∈ text.toList := by
  obtain ⟨-, mentioned, middle, front, back⟩ := classify_eq_proj4_iff.mp asked
  have here : '+' ∈ Text.trim header.toList := mentioned.subset (by decide)
  have between : '+' ∈ middle := by
    rcases front with shape | ⟨shape, -⟩
    · rw [shape, List.mem_cons] at here
      exact here.resolve_left (by decide)
    · exact shape ▸ here
  rcases back with shape | ⟨shape, -⟩
  · rw [shape, List.mem_append] at between
    exact between.resolve_right (by decide)
  · exact shape ▸ between

theorem read_ne_empty_of_asked {header text : String}
    (asked : classify header = .ok (.proj4 text)) : Definition.read text ≠ .error .empty :=
  Definition.read_ne_empty (words_ne_nil_of_mem (plus_mem_of_asked asked) rfl)

/-! ### Headers -/

namespace Registry

variable {registry : Registry} {header : String} {cause : HeaderCause} {error : HeaderError}

/-- **What is blamed for a refusal**, by what the header asks for. -/
inductive Blames (registry : Registry) (header : String) : HeaderCause → Prop
  | unread {fault : HeaderFault} (unread : classify header = .error fault) :
      Blames registry header (.unread fault)
  | zoneNumber {datum : String} {zone : Int} {hemisphere : Hemisphere}
      (asked : classify header = .ok (.utm datum zone hemisphere))
      (outside : ¬ (1 ≤ zone ∧ zone ≤ 60)) :
      Blames registry header (.unbuilt (.definition (.zone (toString zone))))
  | codeText {text : String} (asked : classify header = .ok (.epsg text))
      (undenoted : ∀ code, ¬ DenotesCode text code) :
      Blames registry header (.unbuilt (.codeText text))
  | unknownCode {text : String} {code : Nat} (asked : classify header = .ok (.epsg text))
      (denotes : DenotesCode text code) (unknown : registry.lookup code = none) :
      Blames registry header (.unbuilt (.unknownCode code))
  | malformed {text : String} {error : DefinitionError}
      (asked : classify header = .ok (.proj4 text))
      (unread : Definition.read text = .error error) (worded : error ≠ .empty) :
      Blames registry header (.unbuilt (.definition (.malformed error)))
  | projectionName {text : String} {definition : Definition}
      (asked : classify header = .ok (.proj4 text)) (read : Definition.read text = .ok definition)
      (illNamed : isProjectionName definition.projection = false) :
      Blames registry header (.unbuilt (.definition (.projectionName definition.projection)))
  | missingZone {text : String} {definition : Definition}
      (asked : classify header = .ok (.proj4 text)) (read : Definition.read text = .ok definition)
      (utm : definition.projection = "utm") (absent : definition.get? "zone" = none) :
      Blames registry header (.unbuilt (.definition .missingZone))
  | zone {text numeral : String} {definition : Definition}
      (asked : classify header = .ok (.proj4 text)) (read : Definition.read text = .ok definition)
      (utm : definition.projection = "utm") (given : definition.get? "zone" = some numeral)
      (noZone : Definition.NoZone numeral) :
      Blames registry header (.unbuilt (.definition (.zone numeral)))

/-- What is blamed for a text that gives no system. -/
theorem blames_of_ofProj4 {text : String} {cause : BuildError}
    (asked : classify header = .ok (.proj4 text)) (refused : Crs.ofProj4 text = .error cause) :
    registry.Blames header (.unbuilt cause) := by
  unfold Crs.ofProj4 at refused
  cases built : Definition.readValid text with
  | ok definition =>
    rw [built] at refused
    cases refused
  | error fault =>
    rw [built] at refused
    obtain rfl : BuildError.definition fault = cause := Except.error.inj refused
    rcases Definition.readValid_eq_error_iff.mp built with
      ⟨error, unread, rfl⟩ | ⟨definition, read, disallowed⟩
    · exact .malformed asked unread fun empty => read_ne_empty_of_asked asked (empty ▸ unread)
    · rcases Definition.validate_eq_error_iff.mp disallowed with ⟨illNamed, rfl⟩ | ⟨utm, zoned⟩
      · exact .projectionName asked read illNamed
      · rcases Definition.validateZone_eq_error_iff.mp zoned with
          ⟨absent, rfl⟩ | ⟨numeral, given, noZone, rfl⟩
        · exact .missingZone asked read utm absent
        · exact .zone asked read utm given noZone

/-- A definition that does not pass gives no system. -/
theorem ofProj4_of_validate {text : String} {definition : Definition} {fault : DefinitionFault}
    (read : Definition.read text = .ok definition)
    (disallowed : definition.validate = .error fault) :
    Crs.ofProj4 text = .error (.definition fault) := by
  rw [Crs.ofProj4, Definition.readValid_eq_error_iff.mpr (Or.inr ⟨definition, read, disallowed⟩)]

/-- **What is blamed is what the header is refused for.** -/
theorem resolve_of_blames (blames : registry.Blames header cause) :
    registry.resolve header = .error ⟨header, cause⟩ := by
  have refused : ∀ {text : String} {fault : DefinitionFault},
      classify header = .ok (.proj4 text) → Crs.ofProj4 text = .error (.definition fault) →
        registry.resolve header = .error ⟨header, .unbuilt (.definition fault)⟩ := by
    intro text fault asked unbuilt
    rw [resolve_of_request asked, build_proj4, unbuilt]
  cases blames with
  | unread unread => exact resolve_of_fault unread
  | zoneNumber asked outside => rw [resolve_zone asked, if_neg outside]
  | codeText asked undenoted =>
    rw [resolve_of_request asked, build_epsg, crsOfCode_of_not_denotes undenoted]
  | unknownCode asked denotes unknown =>
    rw [resolve_of_request asked, build_epsg, crsOfCode_of_denotes denotes, unknown]
  | malformed asked unread => exact refused asked (Crs.ofProj4_of_unread unread)
  | projectionName asked read illNamed =>
    exact refused asked
      (ofProj4_of_validate read (Definition.validate_eq_error_iff.mpr (Or.inl ⟨illNamed, rfl⟩)))
  | missingZone asked read utm absent =>
    have zoned := Definition.validateZone_eq_error_iff.mpr (Or.inl ⟨absent, rfl⟩)
    exact refused asked
      (ofProj4_of_validate read (Definition.validate_eq_error_iff.mpr (Or.inr ⟨utm, zoned⟩)))
  | zone asked read utm given noZone =>
    have zoned := Definition.validateZone_of_noZone given noZone
    exact refused asked
      (ofProj4_of_validate read (Definition.validate_eq_error_iff.mpr (Or.inr ⟨utm, zoned⟩)))

/-- **A header is refused for what is blamed**, and for nothing else. -/
theorem resolve_eq_error_iff_blames :
    registry.resolve header = .error error ↔
      error.header = header ∧ registry.Blames header error.cause := by
  constructor
  · intro refused
    rcases resolve_eq_error_iff.mp refused with
      ⟨fault, unread, rfl⟩ | ⟨request, cause, asked, built, rfl⟩
    · exact ⟨rfl, .unread unread⟩
    · refine ⟨rfl, ?_⟩
      cases request with
      | utm datum zone hemisphere =>
        rw [resolve_zone asked] at refused
        split at refused
        · cases refused
        · rename_i outside
          rw [← (HeaderCause.unbuilt.inj (HeaderError.mk.inj (Except.error.inj refused)).2)]
          exact .zoneNumber asked outside
      | proj4 text => exact blames_of_ofProj4 asked (build_proj4 text ▸ built)
      | epsg text =>
        rw [build_epsg] at built
        rcases crsOfCode_eq_error_iff.mp built with
          ⟨undenoted, rfl⟩ | ⟨code, denotes, unknown, rfl⟩
        · exact .codeText asked undenoted
        · exact .unknownCode asked denotes unknown
  · obtain ⟨kept, cause⟩ := error
    rintro ⟨rfl, blames⟩
    exact resolve_of_blames blames

/-- **The kinds of failures by what a header asks for.** -/
theorem Blames.kinds {cause : BuildError} (blames : registry.Blames header (.unbuilt cause)) :
    (∃ datum zone hemisphere, classify header = .ok (.utm datum zone hemisphere) ∧
        cause.kind = .zone) ∨
      (∃ text, classify header = .ok (.epsg text) ∧
        (cause.kind = .codeText ∨ cause.kind = .unknownCode)) ∨
      ∃ text, classify header = .ok (.proj4 text) ∧
        ((cause.kind = .malformed ∧ cause ≠ .definition (.malformed .empty)) ∨
          cause.kind = .projectionName ∨ cause.kind = .zone) := by
  cases blames with
  | zoneNumber asked => exact Or.inl ⟨_, _, _, asked, rfl⟩
  | codeText asked => exact Or.inr (Or.inl ⟨_, asked, Or.inl rfl⟩)
  | unknownCode asked => exact Or.inr (Or.inl ⟨_, asked, Or.inr rfl⟩)
  | malformed asked unread worded =>
    exact Or.inr (Or.inr ⟨_, asked, Or.inl ⟨rfl, by simpa using worded⟩⟩)
  | projectionName asked => exact Or.inr (Or.inr ⟨_, asked, Or.inr (Or.inl rfl)⟩)
  | missingZone asked => exact Or.inr (Or.inr ⟨_, asked, Or.inr (Or.inr rfl)⟩)
  | zone asked => exact Or.inr (Or.inr ⟨_, asked, Or.inr (Or.inr rfl)⟩)

/-- Errors of looking up a code, by their kinds. -/
theorem isEpsgError_eq_true_iff {cause : BuildError} :
    cause.isEpsgError = true ↔ cause.kind = .codeText ∨ cause.kind = .unknownCode ∨
      cause.kind = .registryDefinition := by
  cases cause with
  | definition fault => cases fault <;> simp [BuildError.isEpsgError, BuildError.kind,
      DefinitionFault.kind]
  | codeText text => simp [BuildError.isEpsgError, BuildError.kind]
  | unknownCode code => simp [BuildError.isEpsgError, BuildError.kind]
  | registryDefinition code fault => simp [BuildError.isEpsgError, BuildError.kind]

/-- There is no error of the builder when nothing was asked. -/
theorem buildError?_eq_none_iff (refused : registry.resolve header = .error error) :
    error.buildError? = none ↔ ∃ fault, classify header = .error fault := by
  rcases resolve_eq_error_iff.mp refused with
    ⟨fault, unread, rfl⟩ | ⟨request, cause, asked, -, rfl⟩
  · exact iff_of_true rfl ⟨fault, unread⟩
  · rw [asked]
    exact iff_of_false (by simp [HeaderError.buildError?]) (by simp)

theorem blames_of_buildError? (refused : registry.resolve header = .error error)
    {cause : BuildError} (blamed : error.buildError? = some cause) :
    registry.Blames header (.unbuilt cause) := by
  obtain ⟨-, blames⟩ := resolve_eq_error_iff_blames.mp refused
  obtain ⟨kept, found⟩ := error
  cases found with
  | unread fault => cases blamed
  | unbuilt other =>
    obtain rfl : other = cause := Option.some.inj blamed
    exact blames

/-- **How far the kind of a refusal tells the notation.** -/
theorem refusal_by_request (refused : registry.resolve header = .error error) :
    (∀ other, registry.Blames header other ↔ error.cause = other) ∧
    (error.buildError? = none ↔ ∃ fault, classify header = .error fault) ∧
    ∀ cause, error.buildError? = some cause →
      (∀ datum zone hemisphere, classify header = .ok (.utm datum zone hemisphere) →
        cause.kind = .zone) ∧
      (∀ text, classify header = .ok (.epsg text) →
        cause.kind = .codeText ∨ cause.kind = .unknownCode) ∧
      (∀ text, classify header = .ok (.proj4 text) →
        (cause.kind = .malformed ∧ cause ≠ .definition (.malformed .empty)) ∨
          cause.kind = .projectionName ∨ cause.kind = .zone) ∧
      (cause.isEpsgError = true ↔ ∃ text, classify header = .ok (.epsg text)) ∧
      cause.kind ≠ .registryDefinition := by
  refine ⟨fun other => ?_, buildError?_eq_none_iff refused, fun cause blamed => ?_⟩
  · constructor
    · intro blames
      rw [resolve_of_blames blames] at refused
      rw [← Except.error.inj refused]
    · rintro rfl
      exact (resolve_eq_error_iff_blames.mp refused).2
  · rw [isEpsgError_eq_true_iff]
    rcases (blames_of_buildError? refused blamed).kinds with
      ⟨datum, zone, hemisphere, asked, kind⟩ | ⟨text, asked, kind⟩ | ⟨text, asked, kind⟩
    · simp [asked, kind]
    · simp only [asked]
      rcases kind with kind | kind <;> simp [kind]
    · simp only [asked]
      rcases kind with ⟨kind, worded⟩ | kind | kind
      · simp [kind, worded]
      · simp [kind]
      · simp [kind]

/-- A malformed text in quotes, a code that is not known, and no notation. -/
theorem refusal_by_request_bare :
    ∃ bare unknown unread, builtin.resolve "'+proj'" = .error bare ∧
      builtin.resolve "EPSG:27700" = .error unknown ∧ builtin.resolve "WGS84" = .error unread ∧
      builtin.Blames "'+proj'" bare.cause ∧
      (∀ cause, bare.buildError? = some cause → ¬ cause.isEpsgError = true) ∧
      (∀ cause, unknown.buildError? = some cause →
        cause.kind = .codeText ∨ cause.kind = .unknownCode) ∧
      unread.buildError? = none := by
  have bare : builtin.resolve "'+proj'" =
      .error ⟨"'+proj'", .unbuilt (.definition (.malformed (.missingValue "proj")))⟩ := by
    decide +kernel
  have unknown : builtin.resolve "EPSG:27700" =
      .error ⟨"EPSG:27700", .unbuilt (.unknownCode 27700)⟩ := by
    decide +kernel
  have unread : builtin.resolve "WGS84" = .error ⟨"WGS84", .unread .unrecognized⟩ := by
    decide +kernel
  obtain ⟨blames, -, kinds⟩ := refusal_by_request bare
  refine ⟨_, _, _, bare, unknown, unread, (blames _).mpr rfl, fun cause blamed => ?_,
    fun cause blamed => ?_, ?_⟩
  · rw [(kinds cause blamed).2.2.2.1]
    rintro ⟨text, asked⟩
    have other : classify "'+proj'" = .ok (.proj4 "+proj") := by decide +kernel
    rw [other] at asked
    cases asked
  · exact ((refusal_by_request unknown).2.2 cause blamed).2.1 "27700" (by decide +kernel)
  · exact (refusal_by_request unread).2.1.mpr ⟨.unrecognized, by decide +kernel⟩

end Registry

end Georeference
