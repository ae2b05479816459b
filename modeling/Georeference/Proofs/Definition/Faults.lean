/-
**Which fault of a text is reported, and what a text without one gives.**

The words of a text are looked at from left to right, each for three faults in a fixed order: it has
no plus sign in front, it names no key, or its key was named before. The first word at fault is
blamed. Only if there is none the definition as a whole is looked at.

### Words

* `Spells`: the parameter that a word stands for, whose key goes up to the first `=` behind the plus
  sign.
* `WordFault`, `Faultless`: what is wrong with a word behind earlier ones, and words of which none
  is at fault. The three faults exclude each other.
* `faultless_or_leftmost`: no word is at fault, or there is a first one that is.

### Texts

* `Yields`: what words give. That is the error of the leftmost word at fault; or else an error for a
  definition that is empty, has no projection or one without a name; or else the definition with one
  parameter for each word.
* `read_yields`: a text is read as what its maximal runs give, which is one thing.

**The proof is by induction on the words, for any earlier ones.** The earlier words stand for the
parameters that were read, so a key is among those of the parameters exactly when an earlier word
has it. A word at fault ends the reading (`readWords_cons_of_fault`). Any other word stands for one
parameter, which joins the earlier ones (`exists_parameter`, `readWords_of_faultless`). Words give
something in any case, and what they give is what is read, so they give one thing.
-/

import Georeference.Proofs.Definition.Comparison
import Georeference.Proofs.Definition.RoundTrip
import Georeference.Proofs.Text.Runs
import Mathlib.Data.List.Forall2

namespace Georeference

namespace Definition

/-! ### Words and parameters -/

/-- **A word stands for a parameter**, with a value if it has `=`. -/
inductive Spells : List Char → Parameter → Prop
  | bare {key : List Char} (free : '=' ∉ key) : Spells ('+' :: key) ⟨String.ofList key, none⟩
  | assigned {key value : List Char} (free : '=' ∉ key) :
      Spells ('+' :: (key ++ '=' :: value)) ⟨String.ofList key, some (String.ofList value)⟩

/-- What is wrong with a word behind earlier ones. -/
inductive WordFault (earlier : List (List Char)) (word : List Char) : DefinitionError → Prop
  | missingPlus (unsigned : word.head? ≠ some '+') :
      WordFault earlier word (.missingPlus (String.ofList word))
  | emptyKey {parameter : Parameter} (spelled : Spells word parameter)
      (unnamed : parameter.key = "") : WordFault earlier word (.emptyKey (String.ofList word))
  | duplicateKey {parameter known : Parameter} {before : List Char}
      (spelled : Spells word parameter) (named : parameter.key ≠ "") (member : before ∈ earlier)
      (again : Spells before known) (same : known.key = parameter.key) :
      WordFault earlier word (.duplicateKey parameter.key)

/-- No word is at fault behind those before it. -/
def Faultless (earlier words : List (List Char)) : Prop :=
  ∀ before word after, words = before ++ word :: after →
    ∀ error, ¬ WordFault (earlier ++ before) word error

variable {earlier words : List (List Char)} {word : List Char} {known : List Parameter}
  {parameter : Parameter} {error : DefinitionError}

theorem spells_iff :
    Spells word parameter ↔ word = parameter.text.toList ∧ '=' ∉ parameter.key.toList := by
  rw [Parameter.toList_text]
  constructor
  · intro spelled
    cases spelled with
    | bare free =>
      dsimp only
      rw [String.toList_ofList, List.append_nil]
      exact ⟨rfl, free⟩
    | assigned free =>
      dsimp only
      rw [String.toList_ofList, String.toList_ofList]
      exact ⟨rfl, free⟩
  · rintro ⟨rfl, free⟩
    obtain ⟨key, value⟩ := parameter
    cases value with
    | none =>
      have spelled := Spells.bare free
      rw [String.ofList_toList] at spelled
      rwa [List.append_nil]
    | some value =>
      have spelled := @Spells.assigned _ value.toList free
      rwa [String.ofList_toList, String.ofList_toList] at spelled

/-- Behind a plus sign every word stands for one parameter. -/
theorem spells_plus_iff {body : List Char} :
    Spells ('+' :: body) parameter ↔ Parameter.ofBody body = parameter := by
  rw [spells_iff, Parameter.ofBody_eq_iff, and_comm]

theorem head?_of_spells (spelled : Spells word parameter) : word.head? = some '+' := by
  cases spelled with
  | bare free => rfl
  | assigned free => rfl

/-- **A word stands for one parameter.** -/
theorem eq_of_spells {other : Parameter} (spelled : Spells word parameter)
    (again : Spells word other) : parameter = other := by
  obtain ⟨body, rfl⟩ := List.head?_eq_some_iff.mp (head?_of_spells spelled)
  exact (spells_plus_iff.mp spelled).symm.trans (spells_plus_iff.mp again)

/-- A word with a key is read as the parameter that it stands for. -/
theorem ofWord_of_spells (spelled : Spells word parameter) (named : parameter.key ≠ "") :
    Parameter.ofWord word = .ok parameter := by
  obtain ⟨same, free⟩ := spells_iff.mp spelled
  exact Parameter.ofWord_eq_ok_iff.mpr ⟨same, named, free⟩

/-! ### The words that parameters were read from -/

section Earlier

variable (spelled : List.Forall₂ Spells earlier known)

include spelled

theorem exists_word_of_mem (member : parameter ∈ known) :
    ∃ word ∈ earlier, Spells word parameter := by
  induction spelled with
  | nil => cases member
  | cons first _ ih =>
    rcases List.mem_cons.mp member with rfl | later
    · exact ⟨_, List.mem_cons_self, first⟩
    · obtain ⟨word, inside, found⟩ := ih later
      exact ⟨word, List.mem_cons_of_mem _ inside, found⟩

theorem mem_of_spells_word (member : word ∈ earlier) (found : Spells word parameter) :
    parameter ∈ known := by
  induction spelled with
  | nil => cases member
  | cons first _ ih =>
    rcases List.mem_cons.mp member with rfl | later
    · exact eq_of_spells found first ▸ List.mem_cons_self
    · exact List.mem_cons_of_mem _ (ih later)

/-! ### One word -/

/-- **A word at fault ends the reading.** -/
theorem readWords_cons_of_fault (fault : WordFault earlier word error)
    (rest : List (List Char)) : readWords known (word :: rest) = .error error := by
  rw [readWords]
  cases fault with
  | missingPlus unsigned =>
    have blamed : Parameter.ofWord word = .error (.missingPlus (String.ofList word)) := by
      unfold Parameter.ofWord
      split
      · exact absurd rfl unsigned
      · rfl
    rw [blamed]
  | @emptyKey parameter found unnamed =>
    obtain ⟨body, rfl⟩ := List.head?_eq_some_iff.mp (head?_of_spells found)
    have blamed : Parameter.ofWord ('+' :: body) =
        .error (.emptyKey (String.ofList ('+' :: body))) := by
      rw [Parameter.ofWord, spells_plus_iff.mp found, if_pos (String.isEmpty_iff.mpr unnamed)]
    rw [blamed]
  | @duplicateKey parameter other before found named member again same =>
    have key : parameter.key ∈ known.map Parameter.key :=
      List.mem_map.mpr ⟨other, mem_of_spells_word spelled member again, same⟩
    rw [ofWord_of_spells found named]
    exact if_pos (any_key_iff.mpr key)

/-- **A word that is not at fault** stands for a parameter that joins the others. -/
theorem exists_parameter (faultless : ∀ error, ¬ WordFault earlier word error) :
    ∃ parameter, Spells word parameter ∧ ∀ rest,
      readWords known (word :: rest) = readWords (known ++ [parameter]) rest := by
  by_cases signed : word.head? = some '+'
  · obtain ⟨body, rfl⟩ := List.head?_eq_some_iff.mp signed
    have found : Spells ('+' :: body) (Parameter.ofBody body) := spells_plus_iff.mpr rfl
    have named : (Parameter.ofBody body).key ≠ "" :=
      fun unnamed => faultless _ (.emptyKey found unnamed)
    have fresh : (Parameter.ofBody body).key ∉ known.map Parameter.key := by
      intro again
      obtain ⟨other, member, same⟩ := List.mem_map.mp again
      obtain ⟨before, inside, spells⟩ := exists_word_of_mem spelled member
      exact faultless _ (.duplicateKey found named inside spells same)
    refine ⟨_, found, fun rest => ?_⟩
    rw [readWords, ofWord_of_spells found named]
    exact if_neg (mt any_key_iff.mp fresh)
  · exact absurd (.missingPlus signed) (faultless _)

end Earlier

/-! ### All words -/

/-- Words are faultless when the first one is, and the others behind it. -/
theorem faultless_cons_iff :
    Faultless earlier (word :: words) ↔
      (∀ error, ¬ WordFault earlier word error) ∧ Faultless (earlier ++ [word]) words := by
  constructor
  · intro faultless
    constructor
    · intro error
      have first := faultless [] word words rfl error
      rwa [List.append_nil] at first
    · intro before other after shape error
      rw [List.append_assoc]
      exact faultless (word :: before) other after (by rw [shape, List.cons_append]) error
  · rintro ⟨first, others⟩ before other after shape error
    cases before with
    | nil =>
      obtain ⟨rfl, -⟩ := List.cons.inj shape
      rw [List.append_nil]
      exact first error
    | cons head before =>
      obtain ⟨rfl, same⟩ := List.cons.inj shape
      have later := others before other after same error
      rwa [List.append_assoc] at later

theorem faultless_nil (earlier : List (List Char)) : Faultless earlier [] :=
  fun before word after shape => absurd shape.symm (List.append_ne_nil_of_right_ne_nil before
    (List.cons_ne_nil word after))

/-- **Words that are not at fault** stand for parameters that join the others. -/
theorem readWords_of_faultless (spelled : List.Forall₂ Spells earlier known)
    (faultless : Faultless earlier words) :
    ∃ parameters, List.Forall₂ Spells words parameters ∧ ∀ rest,
      readWords known (words ++ rest) = readWords (known ++ parameters) rest := by
  induction words generalizing earlier known with
  | nil => exact ⟨[], .nil, fun rest => by rw [List.nil_append, List.append_nil]⟩
  | cons word words ih =>
    obtain ⟨first, others⟩ := faultless_cons_iff.mp faultless
    obtain ⟨parameter, found, step⟩ := exists_parameter spelled first
    obtain ⟨parameters, later, run⟩ :=
      ih (List.rel_append spelled (.cons found .nil)) others
    refine ⟨parameter :: parameters, .cons found later, fun rest => ?_⟩
    rw [List.cons_append, step, run, List.append_assoc, List.singleton_append]

/-- **The leftmost fault**, if any word is at fault. -/
theorem faultless_or_leftmost (earlier words : List (List Char)) :
    Faultless earlier words ∨ ∃ before word after error, words = before ++ word :: after ∧
      Faultless earlier before ∧ WordFault (earlier ++ before) word error := by
  induction words generalizing earlier with
  | nil => exact Or.inl (faultless_nil earlier)
  | cons word words ih =>
    by_cases fault : ∃ error, WordFault earlier word error
    · obtain ⟨error, fault⟩ := fault
      refine Or.inr ⟨[], word, words, error, rfl, faultless_nil earlier, ?_⟩
      rwa [List.append_nil]
    · have first := not_exists.mp fault
      rcases ih (earlier ++ [word]) with others | ⟨before, bad, after, error, rfl, others, fault⟩
      · exact Or.inl (faultless_cons_iff.mpr ⟨first, others⟩)
      · refine Or.inr ⟨word :: before, bad, after, error, rfl,
          faultless_cons_iff.mpr ⟨first, others⟩, ?_⟩
        rwa [List.append_assoc] at fault

/-! ### What words give -/

/-- **What words give**: an error, or a definition. -/
inductive Yields (words : List (List Char)) : Except DefinitionError Definition → Prop
  | fault {before after : List (List Char)} {word : List Char} {error : DefinitionError}
      (shape : words = before ++ word :: after) (leftmost : Faultless [] before)
      (fault : WordFault before word error) : Yields words (.error error)
  | empty (wordless : words = []) : Yields words (.error .empty)
  | missingProjection (faultless : Faultless [] words) (worded : words ≠ [])
      (absent : ∀ word ∈ words, ∀ parameter, Spells word parameter → parameter.key ≠ "proj") :
      Yields words (.error .missingProjection)
  | missingValue {word : List Char} {parameter : Parameter} (faultless : Faultless [] words)
      (member : word ∈ words) (spelled : Spells word parameter) (key : parameter.key = "proj")
      (unnamed : parameter.value = none ∨ parameter.value = some "") :
      Yields words (.error (.missingValue "proj"))
  | definition {definition : Definition} {parameter : Parameter} {name : String}
      (faultless : Faultless [] words) (spelled : List.Forall₂ Spells words definition.parameters)
      (member : parameter ∈ definition.parameters) (key : parameter.key = "proj")
      (value : parameter.value = some name) (named : name ≠ "") : Yields words (.ok definition)

/-- Words that are not at fault are read as parameters with different keys. -/
theorem exists_parameters (faultless : Faultless [] words) :
    ∃ parameters, List.Forall₂ Spells words parameters ∧
      readWords [] words = .ok parameters ∧ (parameters.map Parameter.key).Nodup := by
  obtain ⟨parameters, spelled, run⟩ := readWords_of_faultless .nil faultless
  have read : readWords [] words = .ok parameters := by
    have all := run []
    rwa [List.append_nil] at all
  refine ⟨parameters, spelled, read, ?_⟩
  obtain ⟨later, same, -, -, distinct, -⟩ := readWords_eq_ok_iff.mp read
  rwa [same, List.nil_append]

theorem getD_value_eq_empty_iff :
    parameter.value.getD "" = "" ↔ parameter.value = none ∨ parameter.value = some "" := by
  cases parameter.value <;> simp

section Required

variable {parameters : List Parameter}

theorem requireProjection_of_absent (nonempty : parameters ≠ [])
    (absent : ∀ parameter ∈ parameters, parameter.key ≠ "proj") :
    requireProjection ⟨parameters⟩ = .error .missingProjection := by
  have missing : find? ⟨parameters⟩ "proj" = none := by
    refine List.find?_eq_none.mpr fun parameter member => ?_
    simpa using absent parameter member
  rw [requireProjection, if_neg (mt List.isEmpty_iff.mp nonempty), missing]

theorem requireProjection_of_mem (distinct : (parameters.map Parameter.key).Nodup)
    (member : parameter ∈ parameters) (key : parameter.key = "proj") :
    requireProjection ⟨parameters⟩ =
      if parameter.value.getD "" = "" then .error (.missingValue "proj")
      else .ok ⟨parameters⟩ := by
  have found : find? ⟨parameters⟩ "proj" = some parameter :=
    (find?_eq_some_iff distinct).mpr ⟨member, key⟩
  rw [requireProjection, if_neg (mt List.isEmpty_iff.mp (List.ne_nil_of_mem member)), found]
  simp only [String.isEmpty_iff]

end Required

/-- **What words give is what is read.** -/
theorem read_of_yields {text : String} {result : Except DefinitionError Definition}
    (yields : Yields (Text.words text.toList) result) : read text = result := by
  unfold read
  cases yields with
  | @fault before after word error shape leftmost fault =>
    obtain ⟨known, spelled, run⟩ := readWords_of_faultless .nil leftmost
    rw [shape, run, List.nil_append, readWords_cons_of_fault spelled fault]
  | empty wordless =>
    rw [wordless]
    rfl
  | missingProjection faultless worded absent =>
    obtain ⟨parameters, spelled, reads, -⟩ := exists_parameters faultless
    rw [reads]
    refine requireProjection_of_absent ?_ fun parameter member => ?_
    · rintro rfl
      exact worded (List.forall₂_nil_right_iff.mp spelled)
    · obtain ⟨word, inside, found⟩ := exists_word_of_mem spelled member
      exact absent word inside parameter found
  | missingValue faultless member found key unnamed =>
    obtain ⟨parameters, spelled, reads, distinct⟩ := exists_parameters faultless
    have inside := mem_of_spells_word spelled member found
    rw [reads]
    dsimp only
    rw [requireProjection_of_mem distinct inside key,
      if_pos (getD_value_eq_empty_iff.mpr unnamed)]
  | @definition definition parameter name faultless found member key value named =>
    obtain ⟨parameters, spelled, reads, distinct⟩ := exists_parameters faultless
    have unique : Relator.RightUnique Spells := fun _ _ _ => eq_of_spells
    obtain rfl : parameters = definition.parameters := unique.forall₂ spelled found
    rw [reads]
    dsimp only
    rw [requireProjection_of_mem distinct member key, value, Option.getD_some, if_neg named]

/-- **Words give something**, whatever they are. -/
theorem exists_yields (words : List (List Char)) : ∃ result, Yields words result := by
  rcases faultless_or_leftmost [] words with
    faultless | ⟨before, word, after, error, shape, leftmost, fault⟩
  · obtain ⟨parameters, spelled, -, -⟩ := exists_parameters faultless
    by_cases wordless : words = []
    · exact ⟨_, .empty wordless⟩
    · by_cases projected : ∃ parameter ∈ parameters, parameter.key = "proj"
      · obtain ⟨parameter, member, key⟩ := projected
        by_cases unnamed : parameter.value.getD "" = ""
        · obtain ⟨word, inside, found⟩ := exists_word_of_mem spelled member
          exact ⟨_, .missingValue faultless inside found key (getD_value_eq_empty_iff.mp unnamed)⟩
        · obtain ⟨absent, other⟩ := not_or.mp (mt getD_value_eq_empty_iff.mpr unnamed)
          obtain ⟨name, value⟩ := Option.ne_none_iff_exists'.mp absent
          have named : name ≠ "" := fun empty => other (empty ▸ value)
          exact ⟨.ok ⟨parameters⟩, .definition faultless spelled member key value named⟩
      · refine ⟨_, .missingProjection faultless wordless fun word inside parameter found key => ?_⟩
        exact projected ⟨parameter, mem_of_spells_word spelled inside found, key⟩
  · exact ⟨_, .fault shape leftmost fault⟩

/-- **A text is read as what its maximal runs give.** -/
theorem read_yields (text : String) :
    ∃ words, (∀ all, Text.Runs text.toList all ↔ words = all) ∧
      ∀ result, read text = result ↔ Yields words result := by
  refine ⟨Text.words text.toList, fun all => Text.runs_iff_words, fun result => ?_⟩
  constructor
  · rintro rfl
    obtain ⟨result, yields⟩ := exists_yields (Text.words text.toList)
    rwa [read_of_yields yields]
  · exact read_of_yields

end Definition

end Georeference
