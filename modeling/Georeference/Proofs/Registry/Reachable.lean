/-
**The registries that there can be.**

A registry comes from the built-in one by offering systems to it, any number of times, each time
either all of them or none. An offer adds entries one by one, so there are three levels at which
something can be kept: by adding an entry, by an offer that succeeds, and by all offers.

* `SystemDefinition.entry_eq_ok_iff`: which systems are accepted, and with which entry.
* `Registry.define_keeps`: what is kept by adding the entry of any system is kept by an offer that
  succeeds.
* `Registry.Reachable`, `Registry.Sound`: the registries that there can be, and the invariant that
  every entry that was added has a code of 32 bits and a valid definition.
* `Registry.Reachable.sound`: the invariant holds of every such registry.
* `Registry.Reachable.valid_of_lookup`: whatever is found in it has a valid definition.

**The proof is one induction for each level.** Adding an entry keeps the invariant because an entry
comes from a system that was accepted (`Registry.Sound.add`). By induction on the systems an offer
keeps it, and by induction on the offers it holds of every registry that there can be. That entries
stand under their own codes needs no proof here: a registry carries it.
-/

import Georeference.Builder
import Georeference.Proofs.Registry.Builtin

namespace Georeference

/-! ### One offer -/

/-- An offer is accepted when its text is a valid definition, and gives the entry of that. -/
theorem SystemDefinition.entry_eq_ok_iff {system : SystemDefinition} {entry : Entry} :
    system.entry = .ok entry ↔
      Definition.readValid system.proj4 = .ok entry.definition ∧ entry.code = system.code ∧
        entry.name = system.name := by
  obtain ⟨code, name, definition⟩ := entry
  unfold SystemDefinition.entry
  cases Definition.readValid system.proj4 with
  | error fault => simp
  | ok found => simp [eq_comm, and_comm, and_assoc]

namespace Registry

/-- **What is kept by adding the entry of any system** is kept by an offer that succeeds. -/
theorem define_keeps (Kept : Registry → Prop) {registry extended : Registry}
    {systems : List SystemDefinition}
    (step : ∀ earlier, ∀ system ∈ systems, ∀ entry, system.entry = .ok entry → Kept earlier →
      Kept (earlier.add entry))
    (start : Kept registry) (success : registry.define systems = .ok extended) :
    Kept extended := by
  induction systems generalizing registry with
  | nil => exact Except.ok.inj success ▸ start
  | cons system rest ih =>
    rw [define] at success
    cases first : system.entry with
    | error error =>
      rw [first] at success
      cases success
    | ok entry =>
      rw [first] at success
      refine ih (fun earlier later member => ?_) ?_ success
      · exact step earlier later (List.mem_cons_of_mem _ member)
      · exact step registry system List.mem_cons_self entry first start

/-! ### All offers -/

/-- A registry that comes from what is built in by offers that succeed. The codes in an offer are
words of 32 bits. -/
inductive Reachable : Registry → Prop
  | builtin : Reachable builtin
  | define {registry extended : Registry} {systems : List SystemDefinition}
      (earlier : Reachable registry) (fits : ∀ system ∈ systems, system.code < UInt32.size)
      (success : registry.define systems = .ok extended) : Reachable extended

/-- Every entry that was added has a code of 32 bits and a valid definition. -/
structure Sound (registry : Registry) : Prop where
  fits : ∀ pair ∈ registry.added, pair.1 < UInt32.size
  valid : ∀ pair ∈ registry.added, pair.2.definition.Valid

theorem Sound.builtin : Registry.builtin.Sound :=
  ⟨List.forall_mem_nil _, List.forall_mem_nil _⟩

/-- **Adding the entry of a system** keeps a registry sound. -/
theorem Sound.add {registry : Registry} {system : SystemDefinition} {entry : Entry}
    (sound : registry.Sound) (fits : system.code < UInt32.size)
    (accepted : system.entry = .ok entry) : (registry.add entry).Sound := by
  obtain ⟨read, code, -⟩ := SystemDefinition.entry_eq_ok_iff.mp accepted
  constructor
  · exact List.forall_mem_cons.mpr ⟨code ▸ fits, sound.fits⟩
  · exact List.forall_mem_cons.mpr ⟨Definition.valid_of_readValid read, sound.valid⟩

/-- **An offer that succeeds keeps a registry sound.** -/
theorem Sound.define {registry extended : Registry} {systems : List SystemDefinition}
    (sound : registry.Sound) (fits : ∀ system ∈ systems, system.code < UInt32.size)
    (success : registry.define systems = .ok extended) : extended.Sound :=
  define_keeps Sound (fun _ system member _ accepted kept => kept.add (fits system member) accepted)
    sound success

/-- **Every registry that there can be is sound.** -/
theorem Reachable.sound {registry : Registry} (reachable : registry.Reachable) :
    registry.Sound := by
  induction reachable with
  | builtin => exact .builtin
  | define _ fits success ih => exact ih.define fits success

/-! ### What is found -/

theorem findAdded?_eq_some {registry : Registry} {code : Nat} {entry : Entry}
    (found : registry.findAdded? code = some entry) : (code, entry) ∈ registry.added := by
  obtain ⟨⟨key, value⟩, first, rfl⟩ := Option.map_eq_some_iff.mp found
  have same : key = code := by simpa using List.find?_some first
  exact same ▸ List.mem_of_find?_eq_some first

/-- **Whatever is found in a registry that there can be** has a valid definition. -/
theorem Reachable.valid_of_lookup {registry : Registry} (reachable : registry.Reachable)
    {code : Nat} {entry : Entry} (found : registry.lookup code = some entry) :
    entry.definition.Valid := by
  unfold lookup at found
  rcases Option.or_eq_some_iff.mp found with added | ⟨-, known⟩
  · exact reachable.sound.valid _ (findAdded?_eq_some added)
  · exact Builtin.find?_valid known

end Registry

end Georeference
