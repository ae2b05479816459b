/-
**What a definition answers about a key.**

The value of a key is looked for up to the first parameter that has it, while presence and switches
are looked for among all parameters. In a definition that was read no two parameters share a key, so
all three speak of the same parameter, in whatever order the parameters stand.

### The parameters under a key

* `underKey`: the parameters with a key, each as often and in the order in which they stand.
* `underKey_of_mem`, `underKey_eq_nil_or_singleton`: where keys differ there is at most one of them.
* `underKey_perm`: the order of the parameters makes no difference.

### Answers

* `Definition.get?_eq`, `Definition.contains_iff`, `Definition.hasFlag_eq`: the parameters under a
  key are all that an answer about it depends on.
* `Definition.queries_of_read`: in a definition that was read, a key is present exactly when one
  parameter has it and no other one does. Its value is then that of the parameter, and its switch is
  set exactly when that has no value or one that is `true` in any case. Otherwise the key has no
  value and sets no switch.

**The proof is by what stands under the key.** Each of the three questions goes through the
parameters in its own way, but asks nothing of those with another key, so it can be asked of what
stands under the key. That is nothing or one parameter, and there is nothing to choose then. A
rearrangement of the parameters leaves what stands under a key as it is, since one parameter has one
order only.
-/

import Georeference.Proofs.Definition.Rearrangement

namespace Georeference

/-! ### The parameters with a key -/

/-- The parameters with a key, in their order. -/
def underKey (parameters : List Parameter) (key : String) : List Parameter :=
  parameters.filter fun parameter => parameter.key == key

section UnderKey

variable {parameters other : List Parameter} {parameter : Parameter} {key : String}

theorem underKey_eq_nil_iff :
    underKey parameters key = [] ↔ key ∉ parameters.map Parameter.key := by
  rw [underKey, List.filter_eq_nil_iff, List.mem_map, not_exists]
  simp only [beq_iff_eq, not_and]

/-- **Where keys differ**, a parameter is the only one with its key. -/
theorem underKey_of_mem (distinct : (parameters.map Parameter.key).Nodup)
    (member : parameter ∈ parameters) : underKey parameters parameter.key = [parameter] := by
  induction parameters with
  | nil => cases member
  | cons first rest ih =>
    rw [List.map_cons, List.nodup_cons] at distinct
    obtain ⟨fresh, distinct⟩ := distinct
    rcases List.mem_cons.mp member with rfl | later
    · have absent : underKey rest parameter.key = [] := underKey_eq_nil_iff.mpr fresh
      rw [underKey, List.filter_cons_of_pos (by simp)]
      exact congrArg (parameter :: ·) absent
    · have apart : first.key ≠ parameter.key := by
        intro same
        exact fresh (same ▸ List.mem_map_of_mem later)
      rw [underKey, List.filter_cons_of_neg (by simpa using apart)]
      exact ih distinct later

theorem underKey_eq_nil_or_singleton (distinct : (parameters.map Parameter.key).Nodup)
    (key : String) :
    underKey parameters key = [] ∨ ∃ parameter, underKey parameters key = [parameter] := by
  by_cases known : key ∈ parameters.map Parameter.key
  · obtain ⟨parameter, member, rfl⟩ := List.mem_map.mp known
    exact Or.inr ⟨parameter, underKey_of_mem distinct member⟩
  · exact Or.inl (underKey_eq_nil_iff.mpr known)

/-- **Where keys differ, their order makes no difference** to what stands under a key. -/
theorem underKey_perm (distinct : (parameters.map Parameter.key).Nodup)
    (rearranged : parameters.Perm other) (key : String) :
    underKey other key = underKey parameters key := by
  have moved : (underKey parameters key).Perm (underKey other key) := rearranged.filter _
  rcases underKey_eq_nil_or_singleton distinct key with absent | ⟨parameter, single⟩
  · rw [absent] at moved ⊢
    exact moved.nil_eq.symm
  · rw [single] at moved ⊢
    exact List.perm_singleton.mp moved.symm

end UnderKey

namespace Definition

/-! ### What the queries depend on -/

section Queries

variable {definition : Definition} {parameter : Parameter} {key : String}

/-- The value of a key is that of the first parameter under it. -/
theorem get?_eq (definition : Definition) (key : String) :
    definition.get? key = (underKey definition.parameters key).head?.bind Parameter.value := by
  rw [get?, find?, underKey, List.head?_filter]

/-- A key is present when there is a parameter under it. -/
theorem contains_iff :
    definition.contains key = true ↔ underKey definition.parameters key ≠ [] := by
  rw [contains, any_key_iff, ne_eq, underKey_eq_nil_iff, not_not]

/-- A switch is set when a parameter under its key sets it. -/
theorem hasFlag_eq (definition : Definition) (key : String) :
    definition.hasFlag key = (underKey definition.parameters key).any Parameter.isSetFlag := by
  rw [hasFlag, underKey, List.any_filter]

/-- **Under a key of one parameter** the answers are those of this parameter. -/
theorem answers_of_single (single : underKey definition.parameters key = [parameter]) :
    definition.get? key = parameter.value ∧
      (definition.hasFlag key = true ↔ parameter.SetsSwitch) := by
  rw [get?_eq, hasFlag_eq, single]
  refine ⟨rfl, ?_⟩
  rw [List.any_cons, List.any_nil, Bool.or_false, Parameter.isSetFlag_iff]

/-- **Under a key of no parameter** no value and no switch is found. -/
theorem answers_of_absent (absent : underKey definition.parameters key = []) :
    definition.get? key = none ∧ definition.hasFlag key = false := by
  rw [get?_eq, hasFlag_eq, absent]
  exact ⟨rfl, rfl⟩

/-- Where keys differ, a key is present when exactly one parameter has it. -/
theorem contains_iff_single (distinct : (definition.parameters.map Parameter.key).Nodup) :
    definition.contains key = true ↔
      ∃ parameter, underKey definition.parameters key = [parameter] := by
  rw [contains_iff]
  constructor
  · exact (underKey_eq_nil_or_singleton distinct key).resolve_left
  · rintro ⟨parameter, single⟩
    rw [single]
    exact List.cons_ne_nil _ _

end Queries

/-- **A definition that was read answers each question about a key from one parameter.** -/
theorem queries_of_read {text : String} {definition : Definition}
    (success : read text = .ok definition) :
    Writable definition.parameters ∧ definition.parameters ≠ [] ∧
    definition.get? "proj" = some definition.projection ∧ definition.projection ≠ "" ∧
    (∀ key,
      (definition.contains key = true ↔
        ∃ parameter, underKey definition.parameters key = [parameter]) ∧
      (∀ parameter, underKey definition.parameters key = [parameter] →
        definition.get? key = parameter.value ∧
        (definition.hasFlag key = true ↔
          parameter.value = none ∨ ∃ value, parameter.value = some value ∧
            value.toList.map Char.toLower = "true".toList)) ∧
      (definition.contains key = false →
        definition.get? key = none ∧ definition.hasFlag key = false)) ∧
    ∀ other : Definition, definition.parameters.Perm other.parameters →
      other.projection = definition.projection ∧
      ∀ key, other.contains key = definition.contains key ∧
        other.get? key = definition.get? key ∧ other.hasFlag key = definition.hasFlag key := by
  have wellFormed : definition.WellFormed := (read_eq_ok_iff.mp success).2
  have distinct := wellFormed.distinct
  have writable := wellFormed_iff_writable.mp wellFormed
  refine ⟨writable, ?_, (projection_eq_iff wellFormed.projected).mp rfl, wellFormed.projected,
    fun key => ⟨contains_iff_single distinct, fun _ => answers_of_single, fun absent => ?_⟩,
    fun other rearranged => ?_⟩
  · obtain ⟨parameter, member, -⟩ := writable.projected
    exact List.ne_nil_of_mem member
  · refine answers_of_absent (by_contra fun present => ?_)
    rw [contains_iff.mpr present] at absent
    cases absent
  · have same := underKey_perm distinct rearranged
    have values : ∀ key, other.get? key = definition.get? key := by
      intro key
      rw [get?_eq, get?_eq, same]
    refine ⟨by rw [projection, projection, values], fun key => ⟨?_, values key, ?_⟩⟩
    · rw [Bool.eq_iff_iff, contains_iff, contains_iff, same]
    · rw [hasFlag_eq, hasFlag_eq, same]

/-- A bare switch, one set by its value and one not set, in two orders. -/
theorem queries_of_read_switches :
    let definition : Definition := ⟨[.assign "proj" "utm", .flag "south", .assign "no_defs" "TRUE",
      .assign "over" "no"]⟩
    let other : Definition := ⟨[.assign "over" "no", .assign "no_defs" "TRUE", .flag "south",
      .assign "proj" "utm"]⟩
    read " +proj=utm\t+south +no_defs=TRUE +over=no" = .ok definition ∧
      Writable definition.parameters ∧ other.projection = "utm" ∧
      (definition.get? "south" = none ∧ definition.hasFlag "south" = true) ∧
      (other.get? "no_defs" = some "TRUE" ∧ other.hasFlag "no_defs" = true) ∧
      definition.hasFlag "over" = false ∧
      (definition.contains "zone" = false ∧ definition.get? "zone" = none) := by
  intro definition other
  have success : read " +proj=utm\t+south +no_defs=TRUE +over=no" = .ok definition := by
    decide +kernel
  obtain ⟨writable, -, -, -, answers, reordered⟩ := queries_of_read success
  have south : underKey definition.parameters "south" = [.flag "south"] := by decide
  have noDefs : underKey definition.parameters "no_defs" = [.assign "no_defs" "TRUE"] := by decide
  have unset : underKey definition.parameters "over" = [.assign "over" "no"] := by decide
  have absent : definition.contains "zone" = false := by decide
  obtain ⟨projected, same⟩ := reordered other (by decide)
  obtain ⟨value, set⟩ := (answers "south").2.1 _ south
  obtain ⟨value', set'⟩ := (answers "no_defs").2.1 _ noDefs
  obtain ⟨-, set''⟩ := (answers "over").2.1 _ unset
  refine ⟨success, writable, projected, ⟨value, set.mpr (Or.inl rfl)⟩, ⟨?_, ?_⟩, ?_, absent,
    ((answers "zone").2.2 absent).1⟩
  · rw [(same "no_defs").2.1]
    exact value'
  · rw [(same "no_defs").2.2]
    exact set'.mpr (Or.inr ⟨"TRUE", rfl, by decide⟩)
  · rw [← Bool.not_eq_true]
    refine mt set''.mp ?_
    rintro (bare | ⟨value, has, spelled⟩)
    · cases bare
    · rw [← Option.some.inj has] at spelled
      exact absurd spelled (by decide)

end Definition

end Georeference
