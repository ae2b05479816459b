/-
**Registries of coordinate reference systems.**

A registry holds what is built in and the entries that were added to it. An added entry comes before
a built-in one and before those that were added earlier under its code. A system that is offered to
a registry is added as an entry when its text is a valid definition, and a list of them is added as
a whole or not at all.

* `SystemDefinition.entry`: the entry of a system that is offered, or why there is none.
* `Registry`, `Registry.add`: the entries that were added, under their codes.
* `Registry.builtin`, `Registry.define`: all of the systems offered are added, or none.
* `Registry.lookup`, `Registry.contains`, `Registry.codes`, `Registry.size`.
* `readCode`: an EPSG code in text.

Every entry stands under a key, and the field `keyed` says that the key is its code. Nothing but
`Registry.add` puts entries into a registry, so this holds of every registry by how it is made, and
what is found under a code has that code. Keys may come again; the entry that was added last stands
first, and looking a key up finds that one. The codes that are known are therefore made into a list
without duplicates by inserting them one by one where they belong.
-/

import Georeference.Definition.Validity
import Georeference.Registry.Builtin

namespace Georeference

/-- The entry of a system, if its text is a valid definition. -/
def SystemDefinition.entry (system : SystemDefinition) : Except BuildError Entry :=
  match Definition.readValid system.proj4 with
  | .error fault => .error (.registryDefinition system.code fault)
  | .ok definition => .ok ⟨system.code, system.name, definition⟩

/-- The entries that were added to the built-in ones, the latest first, each under a key that is its
code. -/
structure Registry where
  added : List (Nat × Entry)
  keyed : ∀ pair ∈ added, pair.2.code = pair.1
deriving DecidableEq, Repr

namespace Registry

/-- The registry that holds what is built in and nothing else. -/
def builtin : Registry := ⟨[], List.forall_mem_nil _⟩

/-- Adds an entry under its code. -/
def add (registry : Registry) (entry : Entry) : Registry :=
  ⟨(entry.code, entry) :: registry.added, List.forall_mem_cons.mpr ⟨rfl, registry.keyed⟩⟩

/-- Adds systems in order, or fails with the first one that has no valid definition. -/
def define (registry : Registry) : List SystemDefinition → Except BuildError Registry
  | [] => .ok registry
  | system :: rest =>
    match system.entry with
    | .error error => .error error
    | .ok entry => define (registry.add entry) rest

/-- The entry that was added last under a key. -/
def findAdded? (registry : Registry) (code : Nat) : Option Entry :=
  (registry.added.find? fun pair => pair.1 == code).map Prod.snd

/-- The entry of a code: the one added last, or else the built-in one. -/
def lookup (registry : Registry) (code : Nat) : Option Entry :=
  (registry.findAdded? code).or (Builtin.find? code)

def contains (registry : Registry) (code : Nat) : Bool :=
  (registry.lookup code).isSome

/-- Puts a code into an ascending list, unless it is there. -/
def insertCode (code : Nat) : List Nat → List Nat
  | [] => [code]
  | first :: rest =>
    if code < first then code :: first :: rest
    else if code = first then first :: rest
    else first :: insertCode code rest

/-- The codes that are known, each once and in ascending order. -/
def codes (registry : Registry) : List Nat :=
  (Builtin.codes ++ registry.added.map Prod.fst).foldr insertCode []

def size (registry : Registry) : Nat := registry.codes.length

end Registry

/-- An EPSG code is written in ASCII digits and fits into a word of 32 bits. -/
def readCode (text : String) : Except BuildError Nat :=
  match Decimal.natural? text.toList with
  | some code => if code < UInt32.size then .ok code else .error (.codeText text)
  | none => .error (.codeText text)

end Georeference
