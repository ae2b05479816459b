/-
**Reading a definition and writing it again.**

The words of a text that is read are the parameters as they are written, and the parameters that
come out of reading are those that can be written and read again.

### Parameters

* `Parameter.ofBody_eq_iff`: behind the plus sign the key ends at the first `=`.
* `Parameter.ofWord_eq_ok_iff`: a word is read as the parameter whose text it is, if the key is not
  empty and ends before the first `=`.

### Definitions

* `Definition.WellFormed`: keys that are not empty, have no `=` and differ, nothing blank, and a
  name for the projection.
* `Definition.read_eq_ok_iff`: which texts are read as a definition.
* `Definition.read_of_joined`, `Definition.read_text`: a definition that is well formed is read back
  from its parameters as they are written, and so from its text.

### Texts of definitions

The text of a definition that is well formed is not trimmed, begins with a plus sign and has `+proj`
in it.

**The proof is by induction on the words, for any earlier parameters.** A word is read as a
parameter, which has to have a key that no earlier one has, and joins them for the words behind it.
So the keys of the later parameters differ from each other and from those of the earlier ones
(`Definition.readWords_eq_ok_iff`). With no earlier ones this is what a definition that is well
formed has, and the converse is the same induction.
-/

import Georeference.Definition.Reader
import Georeference.Proofs.Text.Search
import Georeference.Proofs.Text.Runs

namespace Georeference

/-! ### Parameters -/

namespace Parameter

theorem toList_text (parameter : Parameter) :
    parameter.text.toList = '+' :: (parameter.key.toList ++
      match parameter.value with
      | none => []
      | some value => '=' :: value.toList) := by
  obtain ⟨key, value⟩ := parameter
  cases value with
  | none => simp [text]
  | some value => simp [text]

theorem toList_text_ne_nil (parameter : Parameter) : parameter.text.toList ≠ [] := by
  rw [toList_text]
  exact List.cons_ne_nil _ _

/-- **Behind the plus sign** the key ends at the first `=`. -/
theorem ofBody_eq_iff {body : List Char} {parameter : Parameter} :
    ofBody body = parameter ↔
      '=' ∉ parameter.key.toList ∧ '+' :: body = parameter.text.toList := by
  obtain ⟨key, value⟩ := parameter
  rw [toList_text, List.cons.injEq, and_iff_right rfl, ofBody]
  cases found : Text.cut? ['='] body with
  | none =>
    have absent := Text.cut?_single_eq_none_iff.mp found
    cases value with
    | none =>
      simp only [mk.injEq, and_true, List.append_nil, Text.ofList_eq_iff]
      exact ⟨fun same => ⟨same ▸ absent, same⟩, fun both => both.2⟩
    | some value =>
      refine iff_of_false (by simp) ?_
      rintro ⟨-, rfl⟩
      exact absent (List.mem_append_right _ List.mem_cons_self)
  | some parts =>
    obtain ⟨rfl, absent⟩ := Text.cut?_single_eq_some_iff.mp found
    cases value with
    | none =>
      refine iff_of_false (by simp) ?_
      rintro ⟨free, same⟩
      rw [List.append_nil] at same
      exact free (same ▸ List.mem_append_right _ List.mem_cons_self)
    | some value =>
      simp only [mk.injEq, Option.some.injEq, Text.ofList_eq_iff]
      constructor
      · rintro ⟨front, back⟩
        rw [← front, ← back]
        exact ⟨absent, rfl⟩
      · rintro ⟨free, same⟩
        have again := Text.cut?_single_eq_some_iff.mpr ⟨same, free⟩
        rw [found, Option.some.injEq, Prod.mk.injEq] at again
        exact again

/-- **A word is read as the parameter whose text it is.** -/
theorem ofWord_eq_ok_iff {word : List Char} {parameter : Parameter} :
    ofWord word = .ok parameter ↔
      word = parameter.text.toList ∧ parameter.key ≠ "" ∧ '=' ∉ parameter.key.toList := by
  constructor
  · intro read
    unfold ofWord at read
    split at read
    · rename_i body
      dsimp only at read
      by_cases named : (ofBody body).key.isEmpty = true
      · rw [if_pos named] at read
        cases read
      · rw [if_neg named] at read
        obtain ⟨free, same⟩ := ofBody_eq_iff.mp (Except.ok.inj read)
        rw [Except.ok.inj read, String.isEmpty_iff] at named
        exact ⟨same, named, free⟩
    · cases read
  · rintro ⟨rfl, named, free⟩
    have shape := toList_text parameter
    have body := ofBody_eq_iff.mpr ⟨free, shape.symm⟩
    rw [shape, ofWord, body, if_neg (mt String.isEmpty_iff.mp named)]

end Parameter

/-! ### Definitions -/

namespace Definition

/-- A definition that can be written and read again. -/
structure WellFormed (definition : Definition) : Prop where
  named : ∀ parameter ∈ definition.parameters, parameter.key ≠ ""
  unassigned : ∀ parameter ∈ definition.parameters, '=' ∉ parameter.key.toList
  shown : ∀ parameter ∈ definition.parameters, ∀ c ∈ parameter.text.toList,
    Text.isBlank c = false
  distinct : (definition.parameters.map Parameter.key).Nodup
  projected : definition.projection ≠ ""

instance (definition : Definition) : Decidable definition.WellFormed :=
  decidable_of_iff
    ((∀ parameter ∈ definition.parameters, parameter.key ≠ "") ∧
      (∀ parameter ∈ definition.parameters, '=' ∉ parameter.key.toList) ∧
      (∀ parameter ∈ definition.parameters, parameter.text.toList.any Text.isBlank = false) ∧
      (definition.parameters.map Parameter.key).Nodup ∧ definition.projection ≠ "")
    ⟨fun ⟨named, unassigned, shown, distinct, projected⟩ =>
      ⟨named, unassigned, fun parameter member =>
        Text.any_isBlank_eq_false_iff.mp (shown parameter member), distinct, projected⟩,
      fun ⟨named, unassigned, shown, distinct, projected⟩ =>
        ⟨named, unassigned, fun parameter member =>
          Text.any_isBlank_eq_false_iff.mpr (shown parameter member), distinct, projected⟩⟩

theorem any_key_iff {parameters : List Parameter} {key : String} :
    (parameters.any fun known => known.key == key) = true ↔ key ∈ parameters.map Parameter.key := by
  rw [List.any_eq_true, List.mem_map]
  simp only [beq_iff_eq]

/-- **Reading words one by one** gives the parameters whose texts they are. -/
theorem readWords_eq_ok_iff {words : List (List Char)} {earlier all : List Parameter} :
    readWords earlier words = .ok all ↔
      ∃ later, all = earlier ++ later ∧
        words = later.map (fun parameter => parameter.text.toList) ∧
        (∀ parameter ∈ later, parameter.key ≠ "" ∧ '=' ∉ parameter.key.toList) ∧
        (later.map Parameter.key).Nodup ∧
        ∀ parameter ∈ later, parameter.key ∉ earlier.map Parameter.key := by
  induction words generalizing earlier with
  | nil =>
    constructor
    · intro read
      refine ⟨[], ?_, rfl, by simp, List.nodup_nil, by simp⟩
      rw [List.append_nil]
      exact (Except.ok.inj read).symm
    · rintro ⟨later, rfl, same, -⟩
      rw [List.map_eq_nil_iff.mp same.symm, List.append_nil]
      rfl
  | cons word rest ih =>
    constructor
    · intro read
      rw [readWords] at read
      cases first : Parameter.ofWord word with
      | error fault =>
        rw [first] at read
        cases read
      | ok parameter =>
        rw [first] at read
        obtain ⟨rfl, named, free⟩ := Parameter.ofWord_eq_ok_iff.mp first
        by_cases known : (earlier.any fun known => known.key == parameter.key) = true
        · simp only [known, if_true] at read
          cases read
        · simp only [known] at read
          obtain ⟨later, rfl, rfl, keyed, distinct, fresh⟩ := ih.mp read
          refine ⟨parameter :: later, ?_, rfl, ?_, ?_, ?_⟩
          · rw [List.append_assoc, List.singleton_append]
          · exact List.forall_mem_cons.mpr ⟨⟨named, free⟩, keyed⟩
          · rw [List.map_cons, List.nodup_cons]
            refine ⟨fun again => ?_, distinct⟩
            obtain ⟨other, member, same⟩ := List.mem_map.mp again
            exact fresh other member (by rw [same]; simp)
          · refine List.forall_mem_cons.mpr ⟨mt any_key_iff.mpr known, ?_⟩
            intro other member before
            exact fresh other member (by rw [List.map_append]; exact List.mem_append_left _ before)
    · rintro ⟨later, rfl, same, keyed, distinct, fresh⟩
      obtain ⟨parameter, others, rfl, rfl, rfl⟩ := List.map_eq_cons_iff.mp same.symm
      obtain ⟨⟨named, free⟩, keyed⟩ := List.forall_mem_cons.mp keyed
      obtain ⟨new, fresh⟩ := List.forall_mem_cons.mp fresh
      rw [List.map_cons, List.nodup_cons] at distinct
      rw [readWords, Parameter.ofWord_eq_ok_iff.mpr ⟨rfl, named, free⟩]
      simp only [any_key_iff, new, if_false]
      refine ih.mpr ⟨others, by simp, rfl, keyed, distinct.2, ?_⟩
      intro other member before
      rw [List.map_append, List.mem_append] at before
      rcases before with before | again
      · exact fresh other member before
      · have same := List.mem_singleton.mp again
        exact distinct.1 (same ▸ List.mem_map_of_mem member)

theorem requireProjection_eq_ok_iff {definition result : Definition} :
    requireProjection definition = .ok result ↔
      definition = result ∧ definition.projection ≠ "" := by
  unfold requireProjection projection get?
  by_cases empty : definition.parameters.isEmpty = true
  · rw [if_pos empty, find?, List.isEmpty_iff.mp empty]
    simp
  · rw [if_neg empty]
    cases definition.find? "proj" with
    | none => simp
    | some parameter =>
      simp only [Option.bind_some]
      by_cases named : (parameter.value.getD "").isEmpty = true
      · rw [if_pos named]
        simp [String.isEmpty_iff.mp named]
      · rw [if_neg named, Except.ok.injEq]
        exact (and_iff_left (mt String.isEmpty_iff.mpr named)).symm

/-- **Which texts are read as a definition**: those with its parameters as words. -/
theorem read_eq_ok_iff {text : String} {definition : Definition} :
    read text = .ok definition ↔
      Text.words text.toList =
          definition.parameters.map (fun parameter => parameter.text.toList) ∧
        definition.WellFormed := by
  constructor
  · intro success
    cases parts : readWords [] (Text.words text.toList) with
    | error fault =>
      rw [read, parts] at success
      cases success
    | ok parameters =>
      rw [read, parts] at success
      obtain ⟨rfl, projected⟩ := requireProjection_eq_ok_iff.mp success
      obtain ⟨later, same, words, keyed, distinct, -⟩ := readWords_eq_ok_iff.mp parts
      rw [List.nil_append] at same
      subst same
      refine ⟨words, fun parameter member => (keyed parameter member).1,
        fun parameter member => (keyed parameter member).2, ?_, distinct, projected⟩
      intro parameter member
      have inside : parameter.text.toList ∈ Text.words text.toList := by
        rw [words]
        exact List.mem_map_of_mem member
      exact Text.not_blank_of_mem_words inside
  · rintro ⟨words, wellFormed⟩
    have parts : readWords [] (Text.words text.toList) = .ok definition.parameters := by
      rw [readWords_eq_ok_iff]
      refine ⟨definition.parameters, rfl, words, ?_, wellFormed.distinct, by simp⟩
      intro parameter member
      exact ⟨wellFormed.named parameter member, wellFormed.unassigned parameter member⟩
    rw [read, parts]
    exact requireProjection_eq_ok_iff.mpr ⟨rfl, wellFormed.projected⟩

theorem toList_text (definition : Definition) :
    definition.text.toList =
      [' '].intercalate (definition.parameters.map fun parameter => parameter.text.toList) := by
  rw [text, String.toList_intercalate, List.map_map]
  rfl

/-- The parameters of a well formed definition are words as they are written. -/
theorem WellFormed.shown_words {definition : Definition} (wellFormed : definition.WellFormed) :
    ∀ word ∈ definition.parameters.map (fun parameter => parameter.text.toList),
      word ≠ [] ∧ ∀ c ∈ word, Text.isBlank c = false := by
  intro word member
  obtain ⟨parameter, inside, rfl⟩ := List.mem_map.mp member
  exact ⟨parameter.toList_text_ne_nil, wellFormed.shown parameter inside⟩

/-- **A well formed definition is read back** from its parameters, however they are spaced. -/
theorem read_of_joined {definition : Definition} (wellFormed : definition.WellFormed)
    {text : String}
    (joined : Text.Joined (definition.parameters.map fun parameter => parameter.text.toList)
      text.toList) : read text = .ok definition :=
  read_eq_ok_iff.mpr ⟨(joined.runs wellFormed.shown_words).words_eq, wellFormed⟩

/-- **A well formed definition is read back from its text.** -/
theorem read_text {definition : Definition} (wellFormed : definition.WellFormed) :
    read definition.text = .ok definition := by
  refine read_of_joined wellFormed ?_
  rw [toList_text]
  exact Text.joined_intercalate _

/-- One more character at the end is not read as the same definition. -/
theorem read_ne_of_append {text longer : String} {definition : Definition} {last : Char}
    (shown : Text.isBlank last = false) (longerText : longer.toList = text.toList ++ [last])
    (success : read longer = .ok definition) : read text ≠ .ok definition := by
  intro again
  have same : Text.words longer.toList = Text.words text.toList := by
    rw [(read_eq_ok_iff.mp success).1, (read_eq_ok_iff.mp again).1]
  have lengths := congrArg (fun words => words.flatten.length) same
  simp only [Text.flatten_words, longerText, List.filter_append, List.length_append] at lengths
  rw [List.filter_cons_of_pos (by simp [shown])] at lengths
  exact absurd lengths (by simp)

/-! ### The text of a definition that is well formed -/

namespace WellFormed

variable {definition : Definition}

theorem trim_text (wellFormed : definition.WellFormed) :
    Text.trim definition.text.toList = definition.text.toList := by
  rw [toList_text]
  exact Text.trim_intercalate wellFormed.shown_words

/-- A parameter for the projection stands somewhere in the text. -/
theorem mention_proj (wellFormed : definition.WellFormed) :
    "+proj".toList <:+: definition.text.toList := by
  have projected := wellFormed.projected
  unfold projection get? at projected
  cases found : definition.find? "proj" with
  | none =>
    rw [found] at projected
    exact absurd rfl projected
  | some parameter =>
    have member : parameter ∈ definition.parameters := List.mem_of_find?_eq_some found
    have key : parameter.key = "proj" := by simpa using List.find?_some found
    have front : "+proj".toList <+: parameter.text.toList := by
      rw [Parameter.toList_text, key]
      exact ⟨_, rfl⟩
    rw [toList_text]
    exact front.isInfix.trans
      (Text.infix_intercalate_of_mem (List.mem_map_of_mem member))

/-- The text begins with the plus sign of a parameter. -/
theorem head?_text (wellFormed : definition.WellFormed) :
    definition.text.toList.head? = some '+' := by
  have mentioned := wellFormed.mention_proj
  rw [toList_text] at mentioned ⊢
  cases shape : definition.parameters with
  | nil =>
    rw [shape, List.map_nil, List.intercalate_nil, List.infix_nil] at mentioned
    exact absurd mentioned (by decide)
  | cons first rest =>
    rw [List.map_cons]
    cases rest.map (fun parameter => parameter.text.toList) with
    | nil =>
      rw [List.intercalate_singleton, Parameter.toList_text]
      rfl
    | cons next others =>
      rw [List.intercalate_cons_cons, Parameter.toList_text]
      rfl

end WellFormed

end Definition

end Georeference
