/-
**Building systems from equivalent texts.**

A definition is checked by the name of its projection and, if that is `utm`, by whether it has a
zone. The texts of equivalent definitions are either both refused for the same kind of reason, or
built into systems that nobody can tell apart in use.

### Checking

* `BuildError.Kind`, `BuildError.kind`: what is wrong, whatever is blamed for it.
* `Definition.validate_eq_ok_iff`, `Definition.kind_of_validate`: which definitions pass, and why
  the others do not.
* `Definition.isProjectionName_of_equivalent`, `Definition.validate_of_equivalent`: equivalent
  definitions pass together.

### The theorem

`Crs.SameOutcome` says of two answers that they are failures of one kind, or systems with the same
code and zone, both geographic or both not, for the same area, that are equivalent in both
directions. `Crs.ofProj4_interchangeable` has it of any two texts that are read as equivalent
definitions, and of any two texts whose runs are the same up to their order, read or not.

**The proof is that names that are compared alike are both well formed or both not.** If neither
name is spelled like a switch, the two are the same. If both are, each is `true` in some spelling,
which has letters only (`Definition.isProjectionName_of_not_plain`), so that it passes, and it is
not `utm`. Which kind of failure there is depends on nothing else, since the name is checked before
the zone. Texts whose runs are reordered are read as reordered definitions, or none of them is read
at all.
-/

import Georeference.Proofs.Crs.Sameness
import Georeference.Proofs.Definition.Rearrangement

namespace Georeference

/-! ### Kinds of failures -/

/-- What is wrong when a system cannot be built, whatever is blamed for it. -/
inductive BuildError.Kind where
  | malformed
  | projectionName
  | zone
  | codeText
  | unknownCode
  | registryDefinition
deriving DecidableEq, Repr

def DefinitionFault.kind : DefinitionFault → BuildError.Kind
  | .malformed _ => .malformed
  | .projectionName _ => .projectionName
  | .missingZone => .zone
  | .zone _ => .zone

def BuildError.kind : BuildError → BuildError.Kind
  | .definition fault => fault.kind
  | .codeText _ => .codeText
  | .unknownCode _ => .unknownCode
  | .registryDefinition _ _ => .registryDefinition

namespace Definition

variable {definition first second : Definition} {fault : DefinitionFault}

/-! ### What is checked -/

/-- The hemisphere makes no difference to whether there is a zone with a number. -/
theorem exists_ofNumber?_iff {number : Int} {hemisphere : Hemisphere} :
    (∃ zone, UtmZone.ofNumber? number hemisphere = some zone) ↔ 1 ≤ number ∧ number ≤ 60 := by
  rw [← Option.isSome_iff_exists, UtmZone.ofNumber?]
  simp

/-- **A definition passes the check of its zone** when its number is that of one. -/
theorem validateZone_eq_ok_iff :
    definition.validateZone = .ok () ↔
      ∃ number, definition.zoneNumber? = some number ∧ 1 ≤ number ∧ number ≤ 60 := by
  have found : definition.validateZone = .ok () ↔
      ∃ zone, (definition.zoneNumber?.bind fun number =>
        UtmZone.ofNumber? number .north) = some zone := by
    unfold validateZone
    cases present : definition.get? "zone" with
    | none => simp [zoneNumber?, present]
    | some text =>
      cases definition.zoneNumber?.bind fun number => UtmZone.ofNumber? number .north with
      | none => simp
      | some zone => simp
  rw [found]
  simp only [Option.bind_eq_some_iff]
  rw [exists_comm]
  simp only [exists_and_left, exists_ofNumber?_iff]

theorem kind_of_validateZone (refused : definition.validateZone = .error fault) :
    fault.kind = .zone := by
  unfold validateZone at refused
  split at refused
  · rw [← Except.error.inj refused]
    rfl
  · split at refused
    · rw [← Except.error.inj refused]
      rfl
    · cases refused

/-- There is a zone exactly when the number is that of one. -/
theorem exists_utmZone?_iff (projection : definition.projection = "utm") :
    (∃ zone, (Crs.ofDefinition definition).utmZone? = some zone) ↔
      ∃ number, definition.zoneNumber? = some number ∧ 1 ≤ number ∧ number ≤ 60 := by
  have projected : (Crs.ofDefinition definition).projection = "utm" := projection
  rw [Crs.utmZone?, if_pos projected]
  simp only [Option.bind_eq_some_iff]
  rw [exists_comm]
  simp only [exists_and_left, exists_ofNumber?_iff]
  rfl

/-- **Which definitions pass**: those named well, and with a zone if they need one. -/
theorem validate_eq_ok_iff :
    definition.validate = .ok () ↔ isProjectionName definition.projection = true ∧
      (definition.projection = "utm" →
        ∃ zone, (Crs.ofDefinition definition).utmZone? = some zone) := by
  unfold validate
  by_cases named : isProjectionName definition.projection = true
  · rw [if_neg (by simp [named]), and_iff_right named]
    by_cases utm : definition.projection = "utm"
    · rw [if_pos utm, validateZone_eq_ok_iff, exists_utmZone?_iff utm]
      exact ⟨fun found _ => found, fun found => found utm⟩
    · rw [if_neg utm]
      exact iff_of_true rfl fun same => absurd same utm
  · rw [if_pos (by simp [named])]
    exact iff_of_false (by simp) fun both => named both.1

/-- **Why a definition does not pass**: the name of the projection is blamed first. -/
theorem kind_of_validate (refused : definition.validate = .error fault) :
    fault.kind =
      if isProjectionName definition.projection = true then .zone else .projectionName := by
  unfold validate at refused
  by_cases named : isProjectionName definition.projection = true
  · rw [if_neg (by simp [named])] at refused
    rw [if_pos named]
    by_cases utm : definition.projection = "utm"
    · rw [if_pos utm] at refused
      exact kind_of_validateZone refused
    · rw [if_neg utm] at refused
      cases refused
  · rw [if_pos (by simp [named])] at refused
    rw [if_neg named, ← Except.error.inj refused]
    rfl

/-! ### Names that are spelled like a switch -/

theorem isAlpha_of_toLower {c : Char} (lower : c.toLower.isAlpha = true) : c.isAlpha = true := by
  by_cases capital : 65 ≤ c.toNat ∧ c.toNat ≤ 90
  · have upper : c.isUpper = true :=
      decide_eq_true ⟨UInt32.le_iff_toNat_le.mpr capital.1, UInt32.le_iff_toNat_le.mpr capital.2⟩
    exact (Bool.or_eq_true _ _).mpr (Or.inl upper)
  · rwa [Text.toLower_of_outside capital] at lower

/-- **A name that is spelled like a set switch** has letters only. -/
theorem isProjectionName_of_not_plain {name : String} (switch : ¬ Plain name) :
    isProjectionName name = true := by
  have spelled : name.toList.map Char.toLower = "true".toList.map Char.toLower := by
    rw [Plain, Bool.not_eq_false, Text.sameIgnoringCase, beq_iff_eq] at switch
    exact switch
  have letters : ∀ c ∈ name.toList, c.isAlpha = true := by
    intro c member
    have inside : c.toLower ∈ "true".toList.map Char.toLower := by
      rw [← spelled]
      exact List.mem_map_of_mem member
    have lower : ("true".toList.map Char.toLower).all Char.isAlpha = true := by decide
    exact isAlpha_of_toLower (List.all_eq_true.mp lower _ inside)
  unfold isProjectionName
  cases shape : name.toList with
  | nil =>
    rw [shape] at spelled
    exact absurd spelled (by decide)
  | cons first rest =>
    rw [shape] at letters
    obtain ⟨front, others⟩ := List.forall_mem_cons.mp letters
    simp only [front, Bool.true_and, List.all_eq_true]
    intro c member
    rw [Char.isAlphanum, others c member, Bool.true_or, Bool.true_or]

/-! ### Equivalent definitions -/

section Equivalent

variable (wellFormed : first.WellFormed) (wellFormed' : second.WellFormed)
  (same : first.equivalent second = true)

include wellFormed wellFormed' same

/-- **Equivalent definitions have projections that are both named well, or both not.** -/
theorem isProjectionName_of_equivalent :
    isProjectionName first.projection = isProjectionName second.projection := by
  have distinct := wellFormed.distinct
  by_cases plain : Plain first.projection
  · rw [(projection_eq_iff_of_equivalent distinct same wellFormed.projected plain).mp rfl]
  · by_cases plain' : Plain second.projection
    · rw [(projection_eq_iff_of_equivalent distinct same wellFormed'.projected plain').mpr rfl]
    · rw [isProjectionName_of_not_plain plain, isProjectionName_of_not_plain plain']

/-- **Equivalent definitions pass together.** -/
theorem validate_of_equivalent : first.validate = .ok () ↔ second.validate = .ok () := by
  have distinct := wellFormed.distinct
  have zone : (Crs.ofDefinition first).utmZone? = (Crs.ofDefinition second).utmZone? :=
    Crs.utmZone?_of_equivalent distinct same
  rw [validate_eq_ok_iff, validate_eq_ok_iff, zone,
    isProjectionName_of_equivalent wellFormed wellFormed' same,
    projection_eq_iff_of_equivalent distinct same (by decide) (by decide)]

end Equivalent

end Definition

/-! ### Systems that are built -/

namespace Crs

/-- **Two answers that cannot be told apart in use**, failures or systems. -/
inductive SameOutcome : Except BuildError Crs → Except BuildError Crs → Prop
  | refused {error other : BuildError} (kind : error.kind = other.kind) :
      SameOutcome (.error error) (.error other)
  | built {first second : Crs} (epsg : first.epsg = second.epsg) (alike : first.Alike second)
      (forth : first.equivalent second = true) (back : second.equivalent first = true) :
      SameOutcome (.ok first) (.ok second)

/-- A text that is read is built into a system if its definition passes. -/
theorem ofProj4_of_read {text : String} {definition : Definition}
    (success : Definition.read text = .ok definition) :
    ofProj4 text =
      match definition.validate with
      | .error fault => .error (.definition fault)
      | .ok () => .ok (ofValid definition) := by
  rw [ofProj4, Definition.readValid, success]
  dsimp only
  cases definition.validate <;> rfl

theorem equivalent_of_definition {first second : Crs}
    (same : first.definition.equivalent second.definition = true) :
    first.equivalent second = true := by
  rw [equivalent, same, Bool.or_true]

/-- **Equivalent definitions are built into systems that cannot be told apart.** -/
theorem SameOutcome.of_valid {first second : Definition}
    (distinct : (first.parameters.map Parameter.key).Nodup)
    (same : first.equivalent second = true) :
    SameOutcome (.ok (ofValid first)) (.ok (ofValid second)) := by
  have forth : (ofValid first).definition.equivalent (ofValid second).definition = true := by
    rwa [definition_ofValid, definition_ofValid]
  have distinct' : ((ofValid first).definition.parameters.map Parameter.key).Nodup := by
    rwa [definition_ofValid]
  exact .built (Definition.zoneCode?_of_equivalent distinct same)
    (.of_sameSystem distinct' (Or.inr forth)) (equivalent_of_definition forth)
    (equivalent_of_definition (Definition.equivalent_symm distinct' forth))

/-- **The texts of equivalent definitions** are answered in the same way. -/
theorem SameOutcome.of_equivalent {text other : String} {first second : Definition}
    (success : Definition.read text = .ok first) (success' : Definition.read other = .ok second)
    (same : first.equivalent second = true) : SameOutcome (ofProj4 text) (ofProj4 other) := by
  have wellFormed := (Definition.read_eq_ok_iff.mp success).2
  have wellFormed' := (Definition.read_eq_ok_iff.mp success').2
  have together := Definition.validate_of_equivalent wellFormed wellFormed' same
  rw [ofProj4_of_read success, ofProj4_of_read success']
  cases passes : first.validate with
  | ok done =>
    rw [together.mp passes]
    exact .of_valid wellFormed.distinct same
  | error fault =>
    cases passes' : second.validate with
    | ok done =>
      rw [together.mpr passes'] at passes
      cases passes
    | error fault' =>
      refine .refused ?_
      show fault.kind = fault'.kind
      rw [Definition.kind_of_validate passes, Definition.kind_of_validate passes',
        Definition.isProjectionName_of_equivalent wellFormed wellFormed' same]

/-- A text that is not read is malformed. -/
theorem ofProj4_of_unread {text : String} {error : DefinitionError}
    (unread : Definition.read text = .error error) :
    ofProj4 text = .error (.definition (.malformed error)) := by
  rw [ofProj4, Definition.readValid, unread]

/-- **Texts whose words differ in their order only** are answered alike, read or not. -/
theorem SameOutcome.of_perm {text other : String}
    (rearranged : (Text.words text.toList).Perm (Text.words other.toList)) :
    SameOutcome (ofProj4 text) (ofProj4 other) := by
  cases success : Definition.read text with
  | ok first =>
    obtain ⟨second, success', moved⟩ := Definition.read_of_perm success rearranged
    exact .of_equivalent success success' (Definition.equivalent_of_perm (moved.map _))
  | error error =>
    cases success' : Definition.read other with
    | ok second =>
      obtain ⟨first, again, -⟩ := Definition.read_of_perm success' rearranged.symm
      rw [success] at again
      cases again
    | error error' =>
      rw [ofProj4_of_unread success, ofProj4_of_unread success']
      exact .refused rfl

/-- **Equivalent texts can be put in each other's place**, and so can reordered ones. -/
theorem ofProj4_interchangeable :
    (∀ text other first second, Definition.read text = .ok first →
      Definition.read other = .ok second → first.equivalent second = true →
      SameOutcome (ofProj4 text) (ofProj4 other)) ∧
    ∀ (text other : String) (words words' : List (List Char)),
      Text.Runs text.toList words → Text.Runs other.toList words' → words.Perm words' →
      SameOutcome (ofProj4 text) (ofProj4 other) := by
  constructor
  · intro text other first second success success' same
    exact .of_equivalent success success' same
  · intro text other words words' runs runs' rearranged
    obtain rfl := runs.words_eq
    obtain rfl := runs'.words_eq
    exact .of_perm rearranged

/-- A switch that is set in two ways, a zone that is a switch, and a text that is not read. -/
theorem ofProj4_interchangeable_switches :
    SameOutcome (ofProj4 "+proj=utm +zone=32 +datum=WGS84 +south")
      (ofProj4 "+datum=WGS84 +south=TRUE +zone=32 +proj=utm") ∧
    (ofProj4 "+proj=utm +zone=32 +datum=WGS84 +south").map epsg = .ok (some 32732) ∧
    SameOutcome (ofProj4 "+proj=utm +zone") (ofProj4 "+zone=True +proj=utm") ∧
    ofProj4 "+proj=utm +zone" = .error (.definition .missingZone) ∧
    ofProj4 "+zone=True +proj=utm" = .error (.definition (.zone "True")) ∧
    SameOutcome (ofProj4 "+proj=utm zone=32") (ofProj4 "zone=32\t+proj=utm") := by
  obtain ⟨equivalent, reordered⟩ := ofProj4_interchangeable
  have runs := fun text : String => Text.runs_iff_words.mpr (rfl : Text.words text.toList = _)
  refine ⟨?_, by decide +kernel, ?_, by decide +kernel, by decide +kernel, ?_⟩
  · refine equivalent _ _
      ⟨[.assign "proj" "utm", .assign "zone" "32", .assign "datum" "WGS84", .flag "south"]⟩
      ⟨[.assign "datum" "WGS84", .assign "south" "TRUE", .assign "zone" "32",
        .assign "proj" "utm"]⟩ ?_ ?_ ?_ <;> decide +kernel
  · refine equivalent _ _ ⟨[.assign "proj" "utm", .flag "zone"]⟩
      ⟨[.assign "zone" "True", .assign "proj" "utm"]⟩ ?_ ?_ ?_ <;> decide +kernel
  · exact reordered _ _ _ _ (runs _) (runs _) (by decide +kernel)

end Crs

end Georeference
