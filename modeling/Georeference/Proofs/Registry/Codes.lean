/-
**The codes that a registry knows.**

A registry answers for a code in two ways: it looks the code up, among the added entries, the zones
and the other systems that are built in, and it lists all of its codes in ascending order. The two
never disagree, whatever was added.

### Ascending lists

The listed codes are put one by one into an ascending list. `mem_insertCode` and
`ascending_insertCode` say what one code does to such a list, and `mem_foldr_insertCode` and
`ascending_foldr_insertCode` what all of them do.

### What is known

* `UtmZone.ofEpsg?_eq_some_iff`: the codes of zones, and no other codes, stand for zones.
* `Builtin.code_of_find?`, `code_of_lookup`: what is found under a code has that code.
* `Builtin.mem_codes_iff`, `mem_codes_iff`: the listed codes are those that are looked up.
* `mem_codes_of_define`: no offer makes a registry forget a code.

### The theorem

`Reachable.codes_known`, for every registry that there can be. A code is looked up successfully
exactly when it is contained, and exactly when it is listed. The entry that is found has the code
itself, which is also that of its system, and its definition is allowed and read back from its text.
The codes are listed in ascending order, each once; there are as many as the size says, at least
one, and each is a word of 32 bits. No offer makes the registry forget a code.

**The proof is that both answers ask for the same three things**: an added entry, a zone, or one of
the eight systems. A code of no zone is left to the eight systems in both of them. That an added
entry has the code under which it stands is carried by the registry, and that it is valid and small
is the invariant of `Registry.Sound`.
-/

import Georeference.Proofs.Registry.Offers
import Georeference.Proofs.Registry.Zones

namespace Georeference

namespace Registry

/-! ### Ascending lists -/

theorem mem_insertCode {code other : Nat} {known : List Nat} :
    other ∈ insertCode code known ↔ other = code ∨ other ∈ known := by
  induction known with
  | nil => simp [insertCode]
  | cons first rest ih =>
    rw [insertCode]
    by_cases before : code < first
    · rw [if_pos before, List.mem_cons]
    · rw [if_neg before]
      by_cases same : code = first
      · rw [if_pos same, same, List.mem_cons, or_self_left]
      · rw [if_neg same, List.mem_cons, List.mem_cons, ih, or_left_comm]

/-- **A code that is put into an ascending list** leaves it ascending. -/
theorem ascending_insertCode (code : Nat) {known : List Nat} (ascending : known.Pairwise (· < ·)) :
    (insertCode code known).Pairwise (· < ·) := by
  induction known with
  | nil => exact List.pairwise_singleton _ _
  | cons first rest ih =>
    obtain ⟨least, others⟩ := List.pairwise_cons.mp ascending
    rw [insertCode]
    by_cases before : code < first
    · rw [if_pos before]
      refine List.pairwise_cons.mpr ⟨fun other member => ?_, ascending⟩
      rcases List.mem_cons.mp member with rfl | later
      · exact before
      · exact before.trans (least other later)
    · rw [if_neg before]
      by_cases same : code = first
      · rw [if_pos same]
        exact ascending
      · rw [if_neg same]
        refine List.pairwise_cons.mpr ⟨fun other member => ?_, ih others⟩
        rcases mem_insertCode.mp member with rfl | later
        · omega
        · exact least other later

theorem mem_foldr_insertCode {code : Nat} (all : List Nat) :
    code ∈ all.foldr insertCode [] ↔ code ∈ all := by
  induction all with
  | nil => rfl
  | cons first rest ih => rw [List.foldr_cons, mem_insertCode, ih, List.mem_cons]

theorem ascending_foldr_insertCode (all : List Nat) :
    (all.foldr insertCode []).Pairwise (· < ·) := by
  induction all with
  | nil => exact List.Pairwise.nil
  | cons first rest ih => exact ascending_insertCode first ih

end Registry

/-! ### Codes that are built in -/

namespace UtmZone

theorem mem_all_iff {zone : UtmZone} : zone ∈ all ↔ 1 ≤ zone.number ∧ zone.number ≤ 60 := by
  obtain ⟨number, hemisphere⟩ := zone
  unfold all
  rw [List.mem_flatMap]
  constructor
  · rintro ⟨found, inside, member⟩
    rw [List.mem_range'_1] at inside
    simp only [List.mem_cons, mk.injEq, List.not_mem_nil, or_false] at member
    rcases member with ⟨rfl, -⟩ | ⟨rfl, -⟩
    · dsimp only
      omega
    · dsimp only
      omega
  · intro inside
    dsimp only at inside
    refine ⟨number, List.mem_range'_1.mpr (by omega), ?_⟩
    cases hemisphere with
    | north => exact List.mem_cons_self
    | south => exact List.mem_cons_of_mem _ List.mem_cons_self

/-- **The codes of zones**, and no other codes, stand for zones. -/
theorem ofEpsg?_eq_some_iff {code : Nat} {zone : UtmZone} :
    ofEpsg? code = some zone ↔ zone ∈ all ∧ zone.epsg = code := by
  constructor
  · intro found
    obtain ⟨inside, epsg⟩ := zone_of_ofEpsg? found
    exact ⟨mem_all_iff.mpr inside, epsg⟩
  · rintro ⟨member, rfl⟩
    exact ofEpsg?_epsg (mem_all_iff.mp member)

end UtmZone

namespace Builtin

theorem code_of_find? {code : Nat} {entry : Entry} (found : find? code = some entry) :
    entry.code = code := by
  rw [find?_eq] at found
  split at found
  · rename_i zone known
    rw [← Option.some.inj found]
    exact (UtmZone.zone_of_ofEpsg? known).2
  · simpa using List.find?_some found

theorem codes_eq : codes = entries.map Entry.code ++ UtmZone.all.map UtmZone.epsg := rfl

/-- **The codes that are built in** are those that are found there. -/
theorem mem_codes_iff {code : Nat} : code ∈ codes ↔ ∃ entry, find? code = some entry := by
  rw [codes_eq, List.mem_append, List.mem_map, List.mem_map, find?_eq]
  cases known : UtmZone.ofEpsg? code with
  | some zone => exact iff_of_true (Or.inr ⟨zone, UtmZone.ofEpsg?_eq_some_iff.mp known⟩) ⟨_, rfl⟩
  | none =>
    have unzoned : ¬ ∃ zone ∈ UtmZone.all, zone.epsg = code := by
      rintro ⟨zone, isZone⟩
      rw [UtmZone.ofEpsg?_eq_some_iff.mpr isZone] at known
      cases known
    rw [or_iff_left unzoned]
    dsimp only
    rw [← Option.isSome_iff_exists, List.find?_isSome]
    simp only [beq_iff_eq]

theorem codes_fit : ∀ code ∈ codes, code < UInt32.size := by
  decide +kernel

end Builtin

/-! ### Codes that are known -/

namespace Registry

variable {registry extended : Registry} {code : Nat} {entry : Entry}

theorem code_of_lookup (found : registry.lookup code = some entry) : entry.code = code := by
  unfold lookup at found
  rcases Option.or_eq_some_iff.mp found with added | ⟨-, known⟩
  · exact registry.keyed _ (findAdded?_eq_some added)
  · exact Builtin.code_of_find? known

theorem mem_codes_iff_added :
    code ∈ registry.codes ↔ code ∈ Builtin.codes ∨ ∃ pair ∈ registry.added, pair.1 = code := by
  rw [codes, mem_foldr_insertCode, List.mem_append, List.mem_map]

/-- **The listed codes are those that are looked up.** -/
theorem mem_codes_iff : code ∈ registry.codes ↔ ∃ entry, registry.lookup code = some entry := by
  have added : (registry.findAdded? code).isSome = true ↔
      ∃ pair ∈ registry.added, pair.1 = code := by
    rw [findAdded?, Option.isSome_map, List.find?_isSome]
    simp only [beq_iff_eq]
  rw [mem_codes_iff_added, Builtin.mem_codes_iff, ← added, ← Option.isSome_iff_exists,
    ← Option.isSome_iff_exists, lookup, Option.isSome_or, Bool.or_eq_true, or_comm]

theorem contains_iff : registry.contains code = true ↔ ∃ entry, registry.lookup code = some entry :=
  Option.isSome_iff_exists

/-- **No offer makes a registry forget a code.** -/
theorem mem_codes_of_define {systems : List SystemDefinition}
    (success : registry.define systems = .ok extended) (known : code ∈ registry.codes) :
    code ∈ extended.codes := by
  refine define_keeps (fun later => code ∈ later.codes) ?_ known success
  intro earlier system member entry accepted kept
  rw [mem_codes_iff_added] at kept ⊢
  refine kept.imp_right ?_
  rintro ⟨pair, old, same⟩
  exact ⟨pair, List.mem_cons_of_mem _ old, same⟩

theorem size_pos (registry : Registry) : 0 < registry.size := by
  have known : 4326 ∈ registry.codes := mem_codes_iff_added.mpr (Or.inl (by decide +kernel))
  exact List.length_pos_of_mem known

theorem Sound.codes_fit (sound : registry.Sound) : ∀ code ∈ registry.codes, code < UInt32.size := by
  intro code known
  rcases mem_codes_iff_added.mp known with builtIn | ⟨pair, member, rfl⟩
  · exact Builtin.codes_fit code builtIn
  · exact sound.fits pair member

/-- **Looking up and listing agree** in every registry that there can be. -/
theorem Reachable.codes_known (reachable : registry.Reachable) :
    (∀ code, ((∃ entry, registry.lookup code = some entry) ↔ registry.contains code = true) ∧
      (registry.contains code = true ↔ code ∈ registry.codes)) ∧
    (∀ code entry, registry.lookup code = some entry →
      entry.code = code ∧ entry.definition.validate = .ok () ∧
        Definition.read entry.definition.text = .ok entry.definition ∧
        entry.crs.epsg = some code) ∧
    registry.codes.Pairwise (· < ·) ∧
    registry.size = registry.codes.length ∧ registry.size ≠ 0 ∧
    (∀ code ∈ registry.codes, code < UInt32.size) ∧
    ∀ systems extended, registry.define systems = .ok extended →
      ∀ code, registry.contains code = true → extended.contains code = true := by
  refine ⟨?_, ?_, ascending_foldr_insertCode _, rfl, registry.size_pos.ne',
    reachable.sound.codes_fit, ?_⟩
  · intro code
    exact ⟨contains_iff.symm, contains_iff.trans mem_codes_iff.symm⟩
  · intro code entry found
    have valid := reachable.valid_of_lookup found
    have same := code_of_lookup found
    exact ⟨same, valid.allowed, Definition.read_text valid.wellFormed, congrArg some same⟩
  · intro systems extended success code known
    rw [contains_iff, ← mem_codes_iff] at known ⊢
    exact mem_codes_of_define success known

/-- The code of a zone, a code that is built in and another one, all of them redefined. -/
theorem Reachable.codes_known_overridden :
    let registry := (((Registry.builtin.add ⟨4326, "World", ⟨[.assign "proj" "longlat"]⟩⟩).add
      ⟨7, "First", ⟨[.assign "proj" "merc"]⟩⟩).add
      ⟨32632, "Zone", ⟨[.assign "proj" "lcc"]⟩⟩).add
      ⟨7, "Second", ⟨[.assign "proj" "aea"]⟩⟩
    registry.Reachable ∧ registry.lookup 7 = some ⟨7, "Second", ⟨[.assign "proj" "aea"]⟩⟩ ∧
      7 ∈ registry.codes ∧ 8 ∉ registry.codes ∧ registry.codes.Pairwise (· < ·) ∧
      registry.size ≠ 0 ∧
      ∃ extended, registry.define [⟨8, "Third", "+proj=merc"⟩] = .ok extended ∧
        extended.contains 7 = true := by
  intro registry
  have reachable : registry.Reachable := by
    have success : Registry.builtin.define [⟨4326, "World", "+proj=longlat"⟩,
        ⟨7, "First", "+proj=merc"⟩, ⟨32632, "Zone", "+proj=lcc"⟩, ⟨7, "Second", "+proj=aea"⟩] =
          .ok registry := by decide +kernel
    exact .define .builtin (by decide) success
  obtain ⟨agree, -, ascending, -, nonempty, -, kept⟩ := reachable.codes_known
  have found : registry.lookup 7 = some ⟨7, "Second", ⟨[.assign "proj" "aea"]⟩⟩ := by decide +kernel
  have contained : registry.contains 7 = true := (agree 7).1.mp ⟨_, found⟩
  have absent : registry.lookup 8 = none := by decide +kernel
  have unlisted : 8 ∉ registry.codes := by
    rw [← (agree 8).2, ← (agree 8).1, absent]
    rintro ⟨entry, same⟩
    cases same
  have success : registry.define [⟨8, "Third", "+proj=merc"⟩] =
      .ok (registry.add ⟨8, "Third", ⟨[.assign "proj" "merc"]⟩⟩) := by decide +kernel
  exact ⟨reachable, found, (agree 7).2.mp contained, unlisted, ascending, nonempty, _, success,
    kept _ _ success 7 contained⟩

end Registry

end Georeference
