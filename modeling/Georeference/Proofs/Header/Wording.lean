/-
**The wording of a refusal takes one line.**

A refusal names the header and the part of it that is to blame. Words of a definition, their keys
and their values are runs of shown characters, so they stand on one line wherever they come from;
the field of a zone and the text of a code are parts of the header.

### Texts

* `Definition.singleLine_of_read`: what is wrong with a text is said on a single line, even if the
  text has more of them.
* `Definition.WellFormed.singleLine_of_validate`, `Crs.singleLine_of_ofProj4`: so is why it gives no
  system.

### Headers

* `singleLine_of_classify`: why a header asks for nothing.
* `Registry.singleLine_of_crsOfCode`: why there is no system under a code.
* `Registry.singleLine_message`: the wording of a refusal, if the header has no line feed.

**The proof is by induction on the words, for any earlier parameters.** The first word at fault is
named by itself or by its key, which is a part of it, and no word has a line feed because that is
blank. The fixed words around it are decided. A value is named only for a definition that was read,
whose parameters have nothing blank. Everything else is a part of the header: the pieces between its
spaces, and what is left of it without its ends.
-/

import Georeference.Proofs.Header.Classification
import Georeference.Proofs.Header.Resolution
import Georeference.Proofs.Registry.CodeText
import Georeference.Proofs.Text.Lines

namespace Georeference

open Text (SingleLine)

/-! ### Texts that give no definition -/

namespace Definition

variable {definition : Definition} {key text value : String}

theorem singleLine_of_ofWord {word : List Char} (unbroken : '\n' ∉ word) {error : DefinitionError}
    (refused : Parameter.ofWord word = .error error) : SingleLine error.message := by
  unfold Parameter.ofWord at refused
  dsimp only at refused
  split at refused
  · split at refused
    · obtain rfl := Except.error.inj refused
      exact .append (by decide) (.ofList unbroken)
    · cases refused
  · obtain rfl := Except.error.inj refused
    exact .append (by decide) (.ofList unbroken)

/-- A key is a part of its word. -/
theorem singleLine_key {word : List Char} (unbroken : '\n' ∉ word) {parameter : Parameter}
    (read : Parameter.ofWord word = .ok parameter) : SingleLine parameter.key := by
  obtain ⟨rfl, -, -⟩ := Parameter.ofWord_eq_ok_iff.mp read
  rw [Parameter.toList_text] at unbroken
  exact fun inside => unbroken (List.mem_cons_of_mem _ (List.mem_append_left _ inside))

theorem singleLine_of_readWords {earlier : List Parameter} {words : List (List Char)}
    (unbroken : ∀ word ∈ words, '\n' ∉ word) {error : DefinitionError}
    (refused : readWords earlier words = .error error) : SingleLine error.message := by
  induction words generalizing earlier with
  | nil => cases refused
  | cons word rest ih =>
    obtain ⟨front, back⟩ := List.forall_mem_cons.mp unbroken
    unfold readWords at refused
    split at refused
    · rename_i fault first
      obtain rfl := Except.error.inj refused
      exact singleLine_of_ofWord front first
    · rename_i parameter first
      split at refused
      · obtain rfl := Except.error.inj refused
        exact .append (by decide) (singleLine_key front first)
      · exact ih back refused

theorem singleLine_of_requireProjection {error : DefinitionError}
    (refused : definition.requireProjection = .error error) : SingleLine error.message := by
  unfold requireProjection at refused
  split at refused
  · obtain rfl := Except.error.inj refused
    decide
  · split at refused
    · obtain rfl := Except.error.inj refused
      decide
    · split at refused
      · obtain rfl := Except.error.inj refused
        decide
      · cases refused

/-- **What is wrong with a text is said on a single line.** -/
theorem singleLine_of_read {error : DefinitionError} (refused : read text = .error error) :
    SingleLine error.message := by
  have unbroken : ∀ word ∈ Text.words text.toList, '\n' ∉ word := fun word member inside =>
    absurd (Text.not_blank_of_mem_words member '\n' inside) (by decide)
  unfold read at refused
  split at refused
  · rename_i fault parts
    obtain rfl := Except.error.inj refused
    exact singleLine_of_readWords unbroken parts
  · exact singleLine_of_requireProjection refused

theorem WellFormed.singleLine_get? (wellFormed : definition.WellFormed)
    (given : definition.get? key = some value) : SingleLine value := by
  obtain ⟨parameter, found, valued⟩ := Option.bind_eq_some_iff.mp given
  refine .of_shown fun c inside => ?_
  refine wellFormed.shown parameter (List.mem_of_find?_eq_some found) c ?_
  rw [Parameter.toList_text, valued]
  exact List.mem_cons_of_mem _ (List.mem_append_right _ (List.mem_cons_of_mem _ inside))

theorem WellFormed.singleLine_projection (wellFormed : definition.WellFormed) :
    SingleLine definition.projection := by
  unfold projection
  cases given : definition.get? "proj" with
  | none => exact (by decide : SingleLine "")
  | some value => exact wellFormed.singleLine_get? given

theorem WellFormed.singleLine_of_validate (wellFormed : definition.WellFormed)
    {fault : DefinitionFault} (refused : definition.validate = .error fault) :
    SingleLine fault.message := by
  unfold validate at refused
  split at refused
  · obtain rfl := Except.error.inj refused
    exact .append (by decide) wellFormed.singleLine_projection
  · split at refused
    · unfold validateZone at refused
      split at refused
      · obtain rfl := Except.error.inj refused
        decide
      · rename_i zone given
        split at refused
        · obtain rfl := Except.error.inj refused
          exact .append (by decide) (wellFormed.singleLine_get? given)
        · cases refused
    · cases refused

theorem singleLine_of_readValid {fault : DefinitionFault}
    (refused : readValid text = .error fault) : SingleLine fault.message := by
  unfold readValid at refused
  split at refused
  · rename_i error unread
    obtain rfl := Except.error.inj refused
    exact .append (by decide) (singleLine_of_read unread)
  · rename_i definition found
    have wellFormed := (read_eq_ok_iff.mp found).2
    split at refused
    · rename_i other disallowed
      obtain rfl := Except.error.inj refused
      exact wellFormed.singleLine_of_validate disallowed
    · cases refused

end Definition

theorem Crs.singleLine_of_ofProj4 {text : String} {error : BuildError}
    (refused : Crs.ofProj4 text = .error error) : SingleLine error.message := by
  unfold Crs.ofProj4 at refused
  split at refused
  · rename_i fault unread
    obtain rfl := Except.error.inj refused
    exact Definition.singleLine_of_readValid unread
  · cases refused

/-! ### Parts of a header -/

/-- The field of a zone is blamed by a part of it. -/
theorem singleLine_of_readZone {field : List Char} (unbroken : '\n' ∉ field) {fault : HeaderFault}
    (refused : readZone field = .error fault) : SingleLine fault.message := by
  unfold readZone at refused
  split at refused
  · obtain rfl := Except.error.inj refused
    decide
  · split at refused
    · obtain rfl := Except.error.inj refused
      have numeral : '\n' ∉ field.dropLast := mt (@List.dropLast_subset _ field _) unbroken
      exact .append (.append (by decide) (.ofList numeral)) (by decide)
    · cases refused

variable {header : String}

theorem notMem_trim (single : SingleLine header) : '\n' ∉ Text.trim header.toList :=
  mt Text.mem_of_mem_trim single

/-- **Why a header asks for nothing is said on a single line.** -/
theorem singleLine_of_classify (single : SingleLine header) {fault : HeaderFault}
    (refused : classify header = .error fault) : SingleLine fault.message := by
  by_cases named : NamesZones (Text.trim header.toList)
  · obtain ⟨fields, cut⟩ := named
    rw [classify_of_pieces cut] at refused
    have unbroken : '\n' ∉ fields.headD [] := by
      cases fields with
      | nil => exact List.not_mem_nil
      | cons field others =>
        have part : field <:+: Text.trim header.toList := by
          rw [← Text.intercalate_pieces (Text.trim header.toList), cut]
          exact Text.infix_intercalate_of_mem (by simp)
        exact fun inside => notMem_trim single (part.mem inside)
    split at refused
    · rename_i other unread
      obtain rfl := Except.error.inj refused
      exact singleLine_of_readZone unbroken unread
    · cases refused
  · rw [classify_of_not_namesZones named] at refused
    unfold classifyOther at refused
    split at refused
    · cases refused
    · split at refused
      · cases refused
      · obtain rfl := Except.error.inj refused
        decide

/-- The text of a code is a part of its header. -/
theorem singleLine_code {code : String} (single : SingleLine header)
    (asked : classify header = .ok (.epsg code)) : SingleLine code := by
  obtain ⟨-, -, word, shape, -⟩ := classify_eq_epsg_iff.mp asked
  have unbroken := notMem_trim single
  rw [shape] at unbroken
  exact fun inside => unbroken (List.mem_append_right _ inside)

namespace Registry

variable {registry : Registry} {error : HeaderError}

theorem singleLine_of_crsOfCode {code : String} (single : SingleLine code) {cause : BuildError}
    (refused : registry.crsOfCode code = .error cause) : SingleLine cause.message := by
  rcases crsOfCode_eq_error_iff.mp refused with ⟨-, rfl⟩ | ⟨number, -, -, rfl⟩
  · exact .append (by decide) single
  · exact .append (by decide) (.toString_nat number)

theorem singleLine_of_build {request : Request} (single : SingleLine header)
    (asked : classify header = .ok request) {cause : BuildError}
    (refused : registry.resolver.build request = .error cause) : SingleLine cause.message := by
  cases request with
  | utm datum zone hemisphere =>
    rw [build_utm] at refused
    exact Crs.singleLine_of_ofProj4 refused
  | proj4 text =>
    rw [build_proj4] at refused
    exact Crs.singleLine_of_ofProj4 refused
  | epsg code =>
    rw [build_epsg] at refused
    exact singleLine_of_crsOfCode (singleLine_code single asked) refused

/-- **A refusal is worded on a single line** if its header is. -/
theorem singleLine_message (single : SingleLine header)
    (refused : registry.resolve header = .error error) : SingleLine error.message := by
  obtain ⟨kept, reason⟩ : error.header = header ∧ SingleLine error.reason := by
    rcases resolve_eq_error_iff.mp refused with
      ⟨fault, unread, rfl⟩ | ⟨request, cause, asked, built, rfl⟩
    · exact ⟨rfl, singleLine_of_classify single unread⟩
    · exact ⟨rfl, singleLine_of_build single asked built⟩
  have front : SingleLine ("Could not parse SRS header '" ++ error.header ++ "': ") :=
    .append (.append (by decide) (kept ▸ single)) (by decide)
  have back : SingleLine
      " (accepted formats are EPSG:*****, WGS84 UTM **(N|S) or a valid proj4 string)" := by
    decide +kernel
  exact (front.append reason).append back

end Registry

end Georeference
