/-
**Builders of coordinate reference systems.**

A builder turns a proj4 text or the text of an EPSG code into a system of its own kind. Both may
fail, and both may have effects, of which the monad of the builder keeps account. The standard
builder has none: it reads and checks definitions and looks codes up in a registry.

* `Builder`: what is asked of a builder.
* `Crs.ofValid`, `Crs.ofProj4`: a system with the EPSG code of its zone if its datum is `WGS84`.
* `Registry.crsOfCode`: the system of a code.
* `Registry.builder`: the standard builder over a registry.

The code that is put on a definition is worked out from the definition alone and does not depend on
any registry, so a registry may know another definition under it.
-/

import Georeference.Registry.Basic

namespace Georeference

/-- Builds systems of the type `System` from proj4 texts and from the texts of EPSG codes. -/
structure Builder (m : Type → Type) (System : Type) where
  fromProj4 : String → m (Except BuildError System)
  fromEpsg : String → m (Except BuildError System)

/-- A system that is given by its definition. A zone on the datum `WGS84` has a code. -/
def Crs.ofValid (definition : Definition) : Crs :=
  let crs := Crs.ofDefinition definition
  if crs.datum? = some "WGS84" then { crs with epsg := crs.utmZone?.map UtmZone.epsg } else crs

def Crs.ofProj4 (text : String) : Except BuildError Crs :=
  match Definition.readValid text with
  | .error fault => .error (.definition fault)
  | .ok definition => .ok (Crs.ofValid definition)

def Registry.crsOfCode (registry : Registry) (text : String) : Except BuildError Crs :=
  match readCode text with
  | .error error => .error error
  | .ok code =>
    match registry.lookup code with
    | none => .error (.unknownCode code)
    | some entry => .ok entry.crs

def Registry.builder (m : Type → Type) [Pure m] (registry : Registry) : Builder m Crs where
  fromProj4 text := pure (Crs.ofProj4 text)
  fromEpsg text := pure (registry.crsOfCode text)

end Georeference
