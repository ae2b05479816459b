/-
**What may be changed of a definition without changing what it says.**

Two definitions that were read are equivalent when the parameters of one are those of the other in
some order, each with the same to compare. Seen from their texts: the words may stand in another
order, and a switch that is set may be set in another way, and nothing else may be different.

### Parameters and words

* `Parameter.SetsSwitch`: a parameter without a value, or with one that is `true` in any case.
* `Parameter.SaysSame`, `Parameter.comparable_eq_iff`: two parameters have the same to compare when
  they have one key, and one value or both set the switch.
* `Definition.Respelled`: two words that stand for such parameters.

### The theorem

`Definition.equivalent_rearranged` is about the definitions that were read (`Definition.Readable`).
They are equivalent when they have the same to compare in some order, and this is an equivalence. A
text whose words are those of another one in some order is read as an equivalent definition. Two
texts are read as equivalent definitions exactly when the words of one are those of the other, moved
and then respelled.

**The proof is that moving and respelling can be done apart.** A rearrangement of what is compared
comes from one of the parameters (`exists_perm_of_map`), whose words are then respelled in their
places (`Definition.forall₂_respelled_iff`). Parameters that can be written and read again stay so
in any order, so their words in that order are read (`Definition.read_of_perm`).
-/

import Georeference.Proofs.Definition.Faults
import Georeference.Proofs.Definition.Writing
import Mathlib.Data.List.Perm.Basic

namespace Georeference

/-! ### What is compared of a parameter -/

namespace Parameter

/-- A parameter without a value, or with one that is `true`. -/
def SetsSwitch (parameter : Parameter) : Prop :=
  parameter.value = none ∨
    ∃ value, parameter.value = some value ∧ value.toList.map Char.toLower = "true".toList

/-- One key, and one value or both set the switch. -/
def SaysSame (first second : Parameter) : Prop :=
  first.key = second.key ∧ (first.value = second.value ∨ first.SetsSwitch ∧ second.SetsSwitch)

theorem isSetFlag_iff {parameter : Parameter} :
    parameter.isSetFlag = true ↔ parameter.SetsSwitch := by
  have lower : "true".toList.map Char.toLower = "true".toList := by decide
  unfold isSetFlag SetsSwitch
  cases parameter.value with
  | none => simp
  | some value =>
    simp only [Text.sameIgnoringCase, lower, beq_iff_eq, reduceCtorEq, false_or,
      Option.some.injEq, exists_eq_left']

theorem comparable_of_setsSwitch {parameter : Parameter} (set : parameter.SetsSwitch) :
    parameter.comparable = (parameter.key, none) := by
  rw [comparable, comparableValue, if_pos (isSetFlag_iff.mpr set)]

theorem comparable_of_not_setsSwitch {parameter : Parameter} (unset : ¬ parameter.SetsSwitch) :
    parameter.comparable = (parameter.key, parameter.value) := by
  rw [comparable, comparableValue, if_neg (mt isSetFlag_iff.mp unset)]

/-- **Two parameters have the same to compare** when they say the same. -/
theorem comparable_eq_iff {first second : Parameter} :
    first.comparable = second.comparable ↔ first.SaysSame second := by
  have valued : ∀ parameter : Parameter, ¬ parameter.SetsSwitch → parameter.value ≠ none :=
    fun _ unset absent => unset (Or.inl absent)
  unfold SaysSame
  by_cases set : first.SetsSwitch
  · by_cases set' : second.SetsSwitch
    · rw [comparable_of_setsSwitch set, comparable_of_setsSwitch set', Prod.mk.injEq]
      simp [set, set']
    · rw [comparable_of_setsSwitch set, comparable_of_not_setsSwitch set', Prod.mk.injEq]
      refine and_congr_right fun _ => iff_of_false (fun same => valued _ set' same.symm) ?_
      rintro (same | ⟨-, again⟩)
      · exact set' (by rwa [SetsSwitch, ← same])
      · exact set' again
  · by_cases set' : second.SetsSwitch
    · rw [comparable_of_not_setsSwitch set, comparable_of_setsSwitch set', Prod.mk.injEq]
      refine and_congr_right fun _ => iff_of_false (valued _ set) ?_
      rintro (same | ⟨again, -⟩)
      · exact set (by rwa [SetsSwitch, same])
      · exact set again
    · rw [comparable_of_not_setsSwitch set, comparable_of_not_setsSwitch set', Prod.mk.injEq]
      simp [set]

end Parameter

/-- **A rearrangement of images** is the image of a rearrangement. -/
theorem exists_perm_of_map {α β : Type} {image : α → β} {first : List α} {other : List β}
    (rearranged : (first.map image).Perm other) :
    ∃ second, first.Perm second ∧ other = second.map image := by
  have through : Relation.Comp (· = List.map image ·) List.Perm other first := by
    rw [List.eq_map_comp_perm]
    exact rearranged.symm
  obtain ⟨second, same, back⟩ := through
  exact ⟨second, back.symm, same⟩

namespace Definition

/-! ### Words in another order -/

/-- **The words of a definition in another order** are read as its parameters. -/
theorem read_of_perm {text other : String} {first : Definition} (success : read text = .ok first)
    (rearranged : (Text.words text.toList).Perm (Text.words other.toList)) :
    ∃ second, read other = .ok second ∧ first.parameters.Perm second.parameters := by
  obtain ⟨words, wellFormed⟩ := read_eq_ok_iff.mp success
  rw [words] at rearranged
  obtain ⟨parameters, moved, words'⟩ := exists_perm_of_map rearranged
  have writable := (wellFormed_iff_writable.mp wellFormed).perm moved
  exact ⟨⟨parameters⟩, read_eq_ok_iff.mpr ⟨words', wellFormed_iff_writable.mpr writable⟩, moved⟩

/-! ### Words that are spelled in another way -/

/-- Two words stand for parameters that say the same. -/
def Respelled (word other : List Char) : Prop :=
  ∃ first second, Spells word first ∧ Spells other second ∧ first.SaysSame second

/-- **Parameters are respelled** when they have the same to compare. -/
theorem respelled_text_iff {first second : Parameter} (free : '=' ∉ first.key.toList)
    (free' : '=' ∉ second.key.toList) :
    Respelled first.text.toList second.text.toList ↔ first.comparable = second.comparable := by
  have spelled : Spells first.text.toList first := spells_iff.mpr ⟨rfl, free⟩
  have spelled' : Spells second.text.toList second := spells_iff.mpr ⟨rfl, free'⟩
  rw [Parameter.comparable_eq_iff]
  constructor
  · rintro ⟨found, found', here, there, same⟩
    rwa [eq_of_spells spelled here, eq_of_spells spelled' there]
  · intro same
    exact ⟨first, second, spelled, spelled', same⟩

theorem forall₂_respelled_iff {first second : List Parameter}
    (free : ∀ parameter ∈ first, '=' ∉ parameter.key.toList)
    (free' : ∀ parameter ∈ second, '=' ∉ parameter.key.toList) :
    List.Forall₂ Respelled (first.map fun parameter => parameter.text.toList)
        (second.map fun parameter => parameter.text.toList) ↔
      first.map Parameter.comparable = second.map Parameter.comparable := by
  induction first generalizing second with
  | nil =>
    rw [List.map_nil, List.forall₂_nil_left_iff, List.map_nil, List.map_eq_nil_iff]
    exact (eq_comm.trans List.map_eq_nil_iff).symm
  | cons head rest ih =>
    cases second with
    | nil => exact iff_of_false (by simp) (by simp)
    | cons head' rest' =>
      obtain ⟨freeHead, freeRest⟩ := List.forall_mem_cons.mp free
      obtain ⟨freeHead', freeRest'⟩ := List.forall_mem_cons.mp free'
      simp only [List.map_cons, List.forall₂_cons, List.cons.injEq,
        respelled_text_iff freeHead freeHead', ih freeRest freeRest']

/-! ### Definitions that were read -/

/-- A definition that some text is read as. -/
def Readable : Type :=
  {definition : Definition // ∃ text, read text = .ok definition}

theorem Readable.wellFormed (definition : Readable) : definition.1.WellFormed := by
  obtain ⟨text, success⟩ := definition.2
  exact (read_eq_ok_iff.mp success).2

/-- **Equivalent texts**: the words of one are those of the other, moved and respelled. -/
theorem equivalent_iff_respelled {text other : String} {first second : Definition}
    (success : read text = .ok first) (success' : read other = .ok second) :
    first.equivalent second = true ↔
      ∃ moved, (Text.words text.toList).Perm moved ∧
        List.Forall₂ Respelled moved (Text.words other.toList) := by
  obtain ⟨words, wellFormed⟩ := read_eq_ok_iff.mp success
  obtain ⟨words', wellFormed'⟩ := read_eq_ok_iff.mp success'
  rw [words, words', equivalent_iff_perm wellFormed.distinct]
  constructor
  · intro rearranged
    obtain ⟨parameters, moved, same⟩ := exists_perm_of_map rearranged
    have free := ((wellFormed_iff_writable.mp wellFormed).perm moved).unassigned
    refine ⟨_, moved.map _, ?_⟩
    exact (forall₂_respelled_iff free wellFormed'.unassigned).mpr same.symm
  · rintro ⟨between, rearranged, respelled⟩
    obtain ⟨parameters, moved, rfl⟩ := exists_perm_of_map rearranged
    have free := ((wellFormed_iff_writable.mp wellFormed).perm moved).unassigned
    rw [← (forall₂_respelled_iff free wellFormed'.unassigned).mp respelled]
    exact moved.map _

/-- **Definitions that were read are equivalent up to order and spelling of switches.** -/
theorem equivalent_rearranged :
    (∀ parameter : Parameter,
      (parameter.SetsSwitch → parameter.comparable = (parameter.key, none)) ∧
      (¬ parameter.SetsSwitch → parameter.comparable = (parameter.key, parameter.value))) ∧
    (∀ first second : Readable, first.1.equivalent second.1 = true ↔
      (first.1.parameters.map Parameter.comparable).Perm
        (second.1.parameters.map Parameter.comparable)) ∧
    (Equivalence fun first second : Readable => first.1.equivalent second.1 = true) ∧
    ∀ (text other : String) (words words' : List (List Char)),
      Text.Runs text.toList words → Text.Runs other.toList words' →
      ∀ first, read text = .ok first →
        (words.Perm words' → ∃ second, read other = .ok second ∧
          first.equivalent second = true) ∧
        ∀ second, read other = .ok second → (first.equivalent second = true ↔
          ∃ moved, words.Perm moved ∧ List.Forall₂ Respelled moved words') := by
  have distinct := fun definition : Readable => definition.wellFormed.distinct
  refine ⟨fun _ => ⟨Parameter.comparable_of_setsSwitch, Parameter.comparable_of_not_setsSwitch⟩,
    fun first second => equivalent_iff_perm (distinct first), ⟨?_, ?_, ?_⟩, ?_⟩
  · intro definition
    exact equivalent_refl definition.1
  · intro first second same
    exact equivalent_symm (distinct first) same
  · intro first second third front back
    exact equivalent_trans front back
  · intro text other words words' runs runs' first success
    obtain rfl := runs.words_eq
    obtain rfl := runs'.words_eq
    refine ⟨fun rearranged => ?_, fun second success' => equivalent_iff_respelled success success'⟩
    obtain ⟨second, success', moved⟩ := read_of_perm success rearranged
    exact ⟨second, success', equivalent_of_perm (moved.map _)⟩

/-- A text, its words reordered, and these with switches set in other ways. -/
theorem equivalent_rearranged_switches :
    let first : Definition := ⟨[.assign "proj" "utm", .flag "no_defs", .assign "south" "TRUE"]⟩
    let second : Definition := ⟨[.flag "south", .assign "no_defs" "tRue", .assign "proj" "utm"]⟩
    read "+proj=utm +no_defs +south=TRUE" = .ok first ∧
      (∃ moved, read "+south=TRUE\t+no_defs +proj=utm" = .ok moved ∧
        first.equivalent moved = true) ∧
      read "+south +no_defs=tRue +proj=utm" = .ok second ∧ first.equivalent second = true ∧
      (first.parameters.map Parameter.comparable).Perm
        (second.parameters.map Parameter.comparable) := by
  intro first second
  obtain ⟨-, compared, -, texts⟩ := equivalent_rearranged
  have success : read "+proj=utm +no_defs +south=TRUE" = .ok first := by decide +kernel
  have success' : read "+south +no_defs=tRue +proj=utm" = .ok second := by decide +kernel
  have runs := fun text : String => Text.runs_iff_words.mpr (rfl : Text.words text.toList = _)
  obtain ⟨reordered, -⟩ := texts "+proj=utm +no_defs +south=TRUE"
    "+south=TRUE\t+no_defs +proj=utm" _ _ (runs _) (runs _) first success
  obtain ⟨-, respelled⟩ := texts "+proj=utm +no_defs +south=TRUE"
    "+south +no_defs=tRue +proj=utm" _ _ (runs _) (runs _) first success
  have same : first.equivalent second = true := by
    let moved : List Parameter := [.assign "south" "TRUE", .flag "no_defs", .assign "proj" "utm"]
    refine (respelled second success').mpr
      ⟨moved.map fun parameter => parameter.text.toList, by decide +kernel, ?_⟩
    rw [(read_eq_ok_iff.mp success').1]
    exact (forall₂_respelled_iff (by decide) (by decide)).mpr (by decide)
  refine ⟨success, reordered (by decide +kernel), success', same, ?_⟩
  exact (compared ⟨first, _, success⟩ ⟨second, _, success'⟩).mp same

end Definition

end Georeference
