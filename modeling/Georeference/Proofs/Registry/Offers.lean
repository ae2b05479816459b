/-
**What an offer of systems does to a registry.**

An offer is a list of systems. They are added one by one, and the first one without a valid
definition ends the offer, of which nothing is left then. What becomes of a registry is said here
without the loop: in terms of the systems offered and of what was known before.

### The theorem

`Registry.define_last_wins`, for **every** registry and **every** list of systems:

* an offer is accepted exactly when each of its systems has a valid definition (`define_isOk_iff`);
* then a code is looked up as the last system that was offered under it (`lookup_of_last`), and as
  before if there is none (`lookup_of_notOffered`);
* otherwise the first system without a valid definition is blamed, with the error that its text has
  as a definition of its own (`define_eq_error_iff`, `SystemDefinition.entry_eq_error_iff`);
* an offer of two lists is one offer behind the other, errors included (`define_append`);
* the order of systems with different codes makes no difference to any code (`lookup_of_perm`).

**The proof is a step lemma and inductions on the offer.** One system that is accepted adds an
entry, which is found under its code and hides nothing else (`lookup_add`). Acceptance, blame and
the law for two lists each follow by induction on the systems, for any registry, since every system
that is accepted changes it. What is looked up needs no further induction: an offer is cut behind
the last system under the code, and nothing behind the cut concerns the code. Where the codes
differ, the system under a code is the only one in either order, so it is the last one in both.
-/

import Georeference.Proofs.Registry.Reachable

namespace Georeference

/-! ### One system -/

namespace SystemDefinition

variable {system : SystemDefinition} {definition : Definition}

/-- The text of a system is a definition that the projection allows. -/
def Describes (system : SystemDefinition) (definition : Definition) : Prop :=
  Definition.read system.proj4 = .ok definition ∧ definition.validate = .ok ()

theorem entry_of_describes (described : system.Describes definition) :
    system.entry = .ok ⟨system.code, system.name, definition⟩ :=
  entry_eq_ok_iff.mpr ⟨Definition.readValid_eq_ok_iff.mpr described, rfl, rfl⟩

theorem exists_entry_iff :
    (∃ entry, system.entry = .ok entry) ↔ ∃ definition, system.Describes definition := by
  constructor
  · rintro ⟨entry, accepted⟩
    exact ⟨entry.definition, Definition.readValid_eq_ok_iff.mp (entry_eq_ok_iff.mp accepted).1⟩
  · rintro ⟨definition, described⟩
    exact ⟨_, entry_of_describes described⟩

/-- **A system is refused** with the fault of its text as a definition. -/
theorem entry_eq_error_iff {error : BuildError} :
    system.entry = .error error ↔
      ∃ fault, Crs.ofProj4 system.proj4 = .error (.definition fault) ∧
        error = .registryDefinition system.code fault := by
  unfold entry Crs.ofProj4
  cases Definition.readValid system.proj4 with
  | error fault => simp [eq_comm]
  | ok found => simp

end SystemDefinition

namespace Registry

variable {registry extended : Registry} {systems : List SystemDefinition}

theorem define_cons_of_entry {system : SystemDefinition} {entry : Entry}
    (accepted : system.entry = .ok entry) :
    registry.define (system :: systems) = define (registry.add entry) systems := by
  rw [define, accepted]

/-- **An added entry** is found under its code, and hides nothing else. -/
theorem lookup_add (entry : Entry) (code : Nat) :
    (registry.add entry).lookup code =
      if entry.code = code then some entry else registry.lookup code := by
  unfold lookup findAdded? add
  by_cases same : entry.code = code
  · rw [if_pos same, List.find?_cons_of_pos (by simpa using same), Option.map_some, Option.some_or]
  · rw [if_neg same, List.find?_cons_of_neg (by simpa using same)]

/-! ### An offer -/

/-- **Which offers are accepted**: those of which every system has a valid definition. -/
theorem define_isOk_iff :
    (∃ extended, registry.define systems = .ok extended) ↔
      ∀ system ∈ systems, ∃ definition, system.Describes definition := by
  induction systems generalizing registry with
  | nil => simp [define]
  | cons system rest ih =>
    rw [List.forall_mem_cons, ← SystemDefinition.exists_entry_iff]
    cases first : system.entry with
    | error error => simp [define, first]
    | ok entry =>
      rw [define_cons_of_entry first, ih]
      simp

/-- **An offer of two lists** is one offer behind the other. -/
theorem define_append (registry : Registry) (first second : List SystemDefinition) :
    registry.define (first ++ second) =
      (registry.define first).bind fun extended => extended.define second := by
  induction first generalizing registry with
  | nil => rfl
  | cons system rest ih =>
    rw [List.cons_append, define, define]
    cases system.entry with
    | error error => rfl
    | ok entry => exact ih _

/-- **Which system is blamed**: the first one that has no valid definition. -/
theorem define_eq_error_iff {error : BuildError} :
    registry.define systems = .error error ↔
      ∃ before system after, systems = before ++ system :: after ∧
        (∀ earlier ∈ before, ∃ definition, earlier.Describes definition) ∧
        system.entry = .error error := by
  constructor
  · intro failure
    induction systems generalizing registry with
    | nil => cases failure
    | cons system rest ih =>
      cases first : system.entry with
      | error cause =>
        rw [define, first] at failure
        exact ⟨[], system, rest, rfl, by simp, by rw [first, ← Except.error.inj failure]⟩
      | ok entry =>
        rw [define_cons_of_entry first] at failure
        obtain ⟨before, blamed, after, rfl, valid, refused⟩ := ih failure
        refine ⟨system :: before, blamed, after, rfl, ?_, refused⟩
        exact List.forall_mem_cons.mpr ⟨SystemDefinition.exists_entry_iff.mp ⟨entry, first⟩, valid⟩
  · rintro ⟨before, system, after, rfl, valid, refused⟩
    obtain ⟨extended, success⟩ := define_isOk_iff.mpr valid
    rw [define_append, success]
    show extended.define (system :: after) = _
    rw [define, refused]

/-! ### What is looked up afterwards -/

/-- **A code under which nothing was offered** is looked up as before. -/
theorem lookup_of_notOffered (success : registry.define systems = .ok extended) {code : Nat}
    (notOffered : ∀ system ∈ systems, system.code ≠ code) :
    extended.lookup code = registry.lookup code := by
  refine define_keeps (fun later => later.lookup code = registry.lookup code) ?_ rfl success
  intro earlier system member entry accepted kept
  have code_eq : entry.code = system.code := (SystemDefinition.entry_eq_ok_iff.mp accepted).2.1
  rw [lookup_add, if_neg (code_eq ▸ notOffered system member), kept]

/-- **The last system under a code** is what the code is looked up as. -/
theorem lookup_of_last {before after : List SystemDefinition} {system : SystemDefinition}
    (success : registry.define (before ++ system :: after) = .ok extended)
    (last : ∀ later ∈ after, later.code ≠ system.code) :
    ∃ definition, system.Describes definition ∧
      extended.lookup system.code = some ⟨system.code, system.name, definition⟩ := by
  have valid := define_isOk_iff.mp ⟨extended, success⟩
  obtain ⟨middle, first⟩ := define_isOk_iff.mpr fun earlier member =>
    valid earlier (List.mem_append_left _ member)
  obtain ⟨definition, described⟩ := valid system (by simp)
  rw [define_append, first] at success
  have rest : middle.define (system :: after) = .ok extended := success
  rw [define_cons_of_entry (SystemDefinition.entry_of_describes described)] at rest
  refine ⟨definition, described, ?_⟩
  rw [lookup_of_notOffered rest last, lookup_add, if_pos rfl]

/-- Where codes differ, no system behind another one has its code. -/
theorem code_ne_of_nodup {before after : List SystemDefinition} {system : SystemDefinition}
    (distinct : ((before ++ system :: after).map SystemDefinition.code).Nodup) :
    ∀ later ∈ after, later.code ≠ system.code := by
  intro later member same
  rw [List.map_append, List.map_cons] at distinct
  have fresh := (List.nodup_cons.mp (List.nodup_append.mp distinct).2.1).1
  exact fresh (same ▸ List.mem_map_of_mem member)

/-- **The order of systems with different codes** makes no difference to any code. -/
theorem lookup_of_perm {other : List SystemDefinition} (rearranged : other.Perm systems)
    (distinct : (systems.map SystemDefinition.code).Nodup)
    (success : registry.define systems = .ok extended) :
    ∃ again, registry.define other = .ok again ∧
      ∀ code, again.lookup code = extended.lookup code := by
  have valid := define_isOk_iff.mp ⟨extended, success⟩
  have distinct' := (rearranged.map SystemDefinition.code).nodup_iff.mpr distinct
  obtain ⟨again, later⟩ := define_isOk_iff.mpr fun system member =>
    valid system (rearranged.mem_iff.mp member)
  refine ⟨again, later, fun code => ?_⟩
  by_cases offered : ∃ system ∈ systems, system.code = code
  · obtain ⟨system, member, rfl⟩ := offered
    obtain ⟨before, after, rfl⟩ := List.append_of_mem member
    obtain ⟨front, back, rfl⟩ := List.append_of_mem (rearranged.mem_iff.mpr member)
    obtain ⟨definition, described, found⟩ := lookup_of_last success (code_ne_of_nodup distinct)
    obtain ⟨same, described', found'⟩ := lookup_of_last later (code_ne_of_nodup distinct')
    rw [found, found', Except.ok.inj (described.1.symm.trans described'.1)]
  · have notOffered : ∀ system ∈ systems, system.code ≠ code := fun system member same =>
      offered ⟨system, member, same⟩
    rw [lookup_of_notOffered success notOffered, lookup_of_notOffered later fun system member =>
      notOffered system (rearranged.mem_iff.mp member)]

/-- **An offer is accepted as a whole or not at all, and the last system under a code wins.** -/
theorem define_last_wins (registry : Registry) (systems : List SystemDefinition) :
    ((∃ extended, registry.define systems = .ok extended) ↔
      ∀ system ∈ systems, ∃ definition, system.Describes definition) ∧
    (∀ extended, registry.define systems = .ok extended →
      (∀ before system after, systems = before ++ system :: after →
        (∀ later ∈ after, later.code ≠ system.code) →
        ∃ definition, system.Describes definition ∧
          extended.lookup system.code = some ⟨system.code, system.name, definition⟩) ∧
      ∀ code, (∀ system ∈ systems, system.code ≠ code) →
        extended.lookup code = registry.lookup code) ∧
    (∀ error, registry.define systems = .error error →
      ∃ before system after fault cause, systems = before ++ system :: after ∧
        (∀ earlier ∈ before, ∃ definition, earlier.Describes definition) ∧
        Crs.ofProj4 system.proj4 = .error cause ∧
        error = .registryDefinition system.code fault ∧
        error.message =
          "Invalid definition for EPSG:" ++ toString system.code ++ ": " ++ cause.message) ∧
    (∀ more, registry.define (systems ++ more) =
      (registry.define systems).bind fun extended => extended.define more) ∧
    ∀ other, other.Perm systems → (systems.map SystemDefinition.code).Nodup →
      ∀ extended, registry.define systems = .ok extended →
        ∃ again, registry.define other = .ok again ∧
          ∀ code, again.lookup code = extended.lookup code := by
  refine ⟨define_isOk_iff, ?_, ?_, define_append registry systems, ?_⟩
  · intro extended success
    refine ⟨?_, fun code notOffered => lookup_of_notOffered success notOffered⟩
    rintro before system after rfl last
    exact lookup_of_last success last
  · intro error failure
    obtain ⟨before, system, after, shape, valid, refused⟩ := define_eq_error_iff.mp failure
    obtain ⟨fault, cause, rfl⟩ := SystemDefinition.entry_eq_error_iff.mp refused
    exact ⟨before, system, after, fault, _, shape, valid, cause, rfl, rfl⟩
  · intro other rearranged distinct extended success
    exact lookup_of_perm rearranged distinct success

/-- Two systems under one code, two in either order, and one without a valid zone. -/
theorem define_last_wins_twice :
    let registry := Registry.builtin.add ⟨2154, "Lambert", ⟨[.assign "proj" "lcc"]⟩⟩
    let first : SystemDefinition := ⟨4326, "First", "+proj=merc"⟩
    let zone : SystemDefinition := ⟨2154, "Zone", "+proj=utm +zone=7"⟩
    let second : SystemDefinition := ⟨4326, "Second", "+proj=aea"⟩
    let broken : SystemDefinition := ⟨7, "Broken", "+proj=utm +zone=61"⟩
    (∃ extended definition, registry.define ([first, zone] ++ [second]) = .ok extended ∧
      extended.lookup 4326 = some ⟨4326, "Second", definition⟩ ∧
      extended.lookup 4269 = registry.lookup 4269) ∧
    (∃ extended again, registry.define [zone, second] = .ok extended ∧
      registry.define [second, zone] = .ok again ∧
      ∀ code, again.lookup code = extended.lookup code) ∧
    ∃ error cause, registry.define [first, broken, second] = .error error ∧
      Crs.ofProj4 broken.proj4 = .error cause ∧
      error.message = "Invalid definition for EPSG:7: " ++ cause.message := by
  intro registry first zone second broken
  let mercator : Entry := ⟨4326, "First", ⟨[.assign "proj" "merc"]⟩⟩
  let seventh : Entry := ⟨2154, "Zone", ⟨[.assign "proj" "utm", .assign "zone" "7"]⟩⟩
  let albers : Entry := ⟨4326, "Second", ⟨[.assign "proj" "aea"]⟩⟩
  refine ⟨?_, ?_, ?_⟩
  · have success : registry.define ([first, zone] ++ [second]) =
        .ok (((registry.add mercator).add seventh).add albers) := by decide +kernel
    obtain ⟨last, others⟩ := (define_last_wins registry ([first, zone] ++ [second])).2.1 _ success
    obtain ⟨definition, -, found⟩ := last [first, zone] second [] rfl (by simp)
    exact ⟨_, definition, success, found, others 4269 (by decide)⟩
  · have success : registry.define [zone, second] = .ok ((registry.add seventh).add albers) := by
      decide +kernel
    obtain ⟨-, -, -, -, permuted⟩ := define_last_wins registry [zone, second]
    obtain ⟨again, later, same⟩ :=
      permuted [second, zone] (List.Perm.swap zone second []) (by decide) _ success
    exact ⟨_, again, success, later, same⟩
  · have failure : registry.define [first, broken, second] =
        .error (.registryDefinition 7 (.zone "61")) := by decide +kernel
    obtain ⟨before, system, after, fault, cause, shape, valid, refused, same, message⟩ :=
      (define_last_wins registry [first, broken, second]).2.2.1 _ failure
    have code : 7 = system.code := (BuildError.registryDefinition.inj same).1
    have member : system ∈ [first, broken, second] := by simp [shape]
    simp only [List.mem_cons, List.not_mem_nil, or_false] at member
    rcases member with rfl | rfl | rfl
    · cases code
    · have front : "Invalid definition for EPSG:" ++ toString broken.code ++ ": " =
          "Invalid definition for EPSG:7: " := by decide +kernel
      rw [front] at message
      exact ⟨_, cause, failure, refused, message⟩
    · cases code

end Registry

end Georeference
