/-
**Writing and reading undo each other.**

What is written for a definition is told by its parameters alone, and so is whether it can be read
again. Spaces are all that reading a text and writing the result changes of it.

### Parameters that can be written and read again

* `Parameter.shown_text_iff`: what is blank in a parameter as it is written.
* `Definition.Writable`: keys that differ, are not empty and have no `=`, nothing blank in a key or
  a value, and a parameter for the projection, with a name.
* `Definition.wellFormed_iff_writable`: these are the parameters of the definitions that are well
  formed.
* `Definition.Writable.perm`: their order makes no difference.

### The theorem

`Definition.read_written`: a definition that was read is written as the maximal runs of the text
with single spaces between them, and what is written is read as the definition again. When
parameters are written with any blank characters between them, they are read as themselves exactly
if they can be written and read again at all.

**The proof is from being well formed.** Which texts are read as a definition is known from
`Definition.read_eq_ok_iff`: the words are the parameters as they are written, and the definition is
well formed. Its words are the maximal runs of the text, and parameters that are joined by blank
characters are the runs of what is written. What is left is to say of keys and values what being
well formed says of whole texts and of the projection.
-/

import Georeference.Proofs.Definition.Comparison
import Georeference.Proofs.Definition.RoundTrip

namespace Georeference

/-- A parameter has nothing blank in it when its key and value have not. -/
theorem Parameter.shown_text_iff {parameter : Parameter} :
    (∀ c ∈ parameter.text.toList, Text.isBlank c = false) ↔
      (∀ c ∈ parameter.key.toList, Text.isBlank c = false) ∧
        ∀ value, parameter.value = some value → ∀ c ∈ value.toList, Text.isBlank c = false := by
  have plus : Text.isBlank '+' = false := rfl
  have equals : Text.isBlank '=' = false := rfl
  rw [toList_text, List.forall_mem_cons, and_iff_right plus, List.forall_mem_append]
  refine and_congr_right fun _ => ?_
  cases parameter.value with
  | none => simp
  | some value =>
    simp only [List.forall_mem_cons, and_iff_right equals, Option.some.injEq, forall_eq']

namespace Definition

/-- **Parameters that can be written and read again.** -/
structure Writable (parameters : List Parameter) : Prop where
  distinct : (parameters.map Parameter.key).Nodup
  named : ∀ parameter ∈ parameters, parameter.key ≠ ""
  unassigned : ∀ parameter ∈ parameters, '=' ∉ parameter.key.toList
  shownKey : ∀ parameter ∈ parameters, ∀ c ∈ parameter.key.toList, Text.isBlank c = false
  shownValue : ∀ parameter ∈ parameters, ∀ value, parameter.value = some value →
    ∀ c ∈ value.toList, Text.isBlank c = false
  projected : ∃ parameter ∈ parameters, parameter.key = "proj" ∧
    ∃ name, parameter.value = some name ∧ name ≠ ""

/-- **Where keys differ**, there is a projection when some parameter names one. -/
theorem projection_ne_empty_iff {definition : Definition}
    (distinct : (definition.parameters.map Parameter.key).Nodup) :
    definition.projection ≠ "" ↔
      ∃ parameter ∈ definition.parameters, parameter.key = "proj" ∧
        ∃ name, parameter.value = some name ∧ name ≠ "" := by
  constructor
  · intro projected
    have value := (projection_eq_iff projected).mp rfl
    obtain ⟨parameter, found, value⟩ := Option.bind_eq_some_iff.mp value
    obtain ⟨member, key⟩ := (find?_eq_some_iff distinct).mp found
    exact ⟨parameter, member, key, _, value, projected⟩
  · rintro ⟨parameter, member, key, name, value, named⟩
    have found := (find?_eq_some_iff distinct).mpr ⟨member, key⟩
    rwa [projection, get?, found, Option.bind_some, value, Option.getD_some]

/-- **A definition is well formed when its parameters are writable.** -/
theorem wellFormed_iff_writable {definition : Definition} :
    definition.WellFormed ↔ Writable definition.parameters := by
  constructor
  · rintro ⟨named, unassigned, shown, distinct, projected⟩
    have shown := fun parameter member => Parameter.shown_text_iff.mp (shown parameter member)
    exact ⟨distinct, named, unassigned, fun parameter member => (shown parameter member).1,
      fun parameter member => (shown parameter member).2,
      (projection_ne_empty_iff distinct).mp projected⟩
  · rintro ⟨distinct, named, unassigned, shownKey, shownValue, projected⟩
    refine ⟨named, unassigned, fun parameter member => ?_, distinct,
      (projection_ne_empty_iff distinct).mpr projected⟩
    exact Parameter.shown_text_iff.mpr ⟨shownKey parameter member, shownValue parameter member⟩

/-- **The order makes no difference** to whether parameters are writable. -/
theorem Writable.perm {first second : List Parameter} (writable : Writable first)
    (rearranged : first.Perm second) : Writable second where
  distinct := (rearranged.map Parameter.key).nodup_iff.mp writable.distinct
  named parameter member := writable.named parameter (rearranged.mem_iff.mpr member)
  unassigned parameter member := writable.unassigned parameter (rearranged.mem_iff.mpr member)
  shownKey parameter member := writable.shownKey parameter (rearranged.mem_iff.mpr member)
  shownValue parameter member := writable.shownValue parameter (rearranged.mem_iff.mpr member)
  projected := by
    obtain ⟨parameter, member, named⟩ := writable.projected
    exact ⟨parameter, rearranged.mem_iff.mp member, named⟩

/-- **Writing and reading undo each other.** -/
theorem read_written :
    (∀ text definition, read text = .ok definition →
      (∃ words, Text.Runs text.toList words ∧
        definition.text.toList = [' '].intercalate words) ∧
      read definition.text = .ok definition) ∧
    ∀ (parameters : List Parameter) (text : String),
      Text.Joined (parameters.map fun parameter => parameter.text.toList) text.toList →
        (read text = .ok ⟨parameters⟩ ↔ Writable parameters) := by
  constructor
  · intro text definition success
    obtain ⟨words, wellFormed⟩ := read_eq_ok_iff.mp success
    refine ⟨⟨_, Text.runs_iff_words.mpr words, toList_text definition⟩, read_text wellFormed⟩
  · intro parameters text joined
    constructor
    · intro success
      exact wellFormed_iff_writable.mp (read_eq_ok_iff.mp success).2
    · intro writable
      exact read_of_joined (wellFormed_iff_writable.mpr writable) joined

/-- Plus signs in a key, `=` in a value, an empty value, and unusual blank characters. -/
theorem read_written_unusual :
    let parameters : List Parameter :=
      [.flag "no_defs", .assign "+k" "a=b", .assign "proj" "utm", .assign "x" ""]
    read "\u3000+no_defs\t\n++k=a=b +proj=utm \u2003+x= " = .ok ⟨parameters⟩ ∧
      (text ⟨parameters⟩).toList = "+no_defs ++k=a=b +proj=utm +x=".toList ∧
      read (text ⟨parameters⟩) = .ok ⟨parameters⟩ ∧ Writable parameters ∧
      read "+no_defs\t\n++k=a=b +proj=utm \u2003+x=" = .ok ⟨parameters⟩ := by
  intro parameters
  obtain ⟨written, spaced⟩ := read_written
  have success : read "\u3000+no_defs\t\n++k=a=b +proj=utm \u2003+x= " = .ok ⟨parameters⟩ := by
    decide +kernel
  obtain ⟨⟨words, runs, same⟩, again⟩ := written _ _ success
  have found : words = ["+no_defs".toList, "++k=a=b".toList, "+proj=utm".toList, "+x=".toList] := by
    rw [← Text.runs_iff_words.mp runs]
    decide +kernel
  have joined : Text.Joined (parameters.map fun parameter => parameter.text.toList)
      "+no_defs\t\n++k=a=b +proj=utm \u2003+x=".toList := by
    have shape : "+no_defs\t\n++k=a=b +proj=utm \u2003+x=".toList =
        "+no_defs".toList ++ (['\t', '\n'] ++ ("++k=a=b".toList ++ ([' '] ++ ("+proj=utm".toList ++
          ([' ', '\u2003'] ++ "+x=".toList))))) := by decide +kernel
    have texts : parameters.map (fun parameter => parameter.text.toList) =
        ["+no_defs".toList, "++k=a=b".toList, "+proj=utm".toList, "+x=".toList] := by
      decide +kernel
    rw [shape, texts]
    exact .next (by decide) (List.all_eq_true.mp rfl) (.next (by decide) (List.all_eq_true.mp rfl)
      (.next (by decide) (List.all_eq_true.mp rfl) (.last _)))
  have writable : Writable parameters := wellFormed_iff_writable.mp (by decide +kernel)
  refine ⟨success, ?_, again, writable, (spaced parameters _ joined).mpr writable⟩
  rw [same, found]
  decide +kernel

end Definition

end Georeference
