/-
**Systems known by their EPSG code.**

A system is offered under a code, with a name and a text that is to be read as its definition. A
registry entry is such a system after its text was read. Eight systems are built in, and so is every
zone of the Universal Transverse Mercator system on the WGS 84 datum.

* `SystemDefinition`, `SystemDefinition.read?`: a system, and its entry if its text can be read.
* `Entry`, `Entry.crs`: an entry, and the system that is found under its code.
* `Builtin.systems`, `Builtin.ofZone`: what is built in, as it is written.
* `Builtin.find?`, `Builtin.codes`: the entry of a code, and all codes.

What is built in is kept as texts too, which are read each time when a code is looked up. The text
of a zone is put together from its number and its hemisphere, so there is no table of the hundred
and twenty zones, and a code is first asked for the zone that it is the code of. That all of the
texts can be read is a theorem (`Builtin.find?_eq`) and no part of the definition.
-/

import Georeference.Crs
import Georeference.Definition.Reader

namespace Georeference

/-- A system that is offered to a registry: a code, a name and a text to be read as a
definition. -/
structure SystemDefinition where
  code : Nat
  name : String
  proj4 : String
deriving DecidableEq, Repr

/-- A system under its EPSG code. -/
structure Entry where
  code : Nat
  name : String
  definition : Definition
deriving DecidableEq, Repr

/-- The system of an entry, with its code and its name. -/
def Entry.crs (entry : Entry) : Crs :=
  ⟨entry.definition, some entry.code, some entry.name⟩

/-- The entry of a system whose text can be read. -/
def SystemDefinition.read? (system : SystemDefinition) : Option Entry :=
  match Definition.read system.proj4 with
  | .error _ => none
  | .ok definition => some ⟨system.code, system.name, definition⟩

namespace Builtin

/-- The systems that are built in one by one. -/
def systems : List SystemDefinition :=
  [⟨4326, "WGS 84", "+proj=longlat +datum=WGS84 +no_defs"⟩,
   ⟨4269, "NAD83", "+proj=longlat +datum=NAD83 +no_defs"⟩,
   ⟨4258, "ETRS89", "+proj=longlat +ellps=GRS80 +no_defs"⟩,
   ⟨3857, "WGS 84 / Pseudo-Mercator",
    "+proj=merc +a=6378137 +b=6378137 +lat_ts=0 +lon_0=0 +x_0=0 +y_0=0 +k=1 +units=m " ++
    "+nadgrids=@null +wktext +no_defs"⟩,
   ⟨900913, "Google Maps Global Mercator",
    "+proj=merc +a=6378137 +b=6378137 +lat_ts=0 +lon_0=0 +x_0=0 +y_0=0 +k=1 +units=m " ++
    "+nadgrids=@null +wktext +no_defs"⟩,
   ⟨5070, "NAD83 / Conus Albers",
    "+proj=aea +lat_0=23 +lon_0=-96 +lat_1=29.5 +lat_2=45.5 +x_0=0 +y_0=0 +datum=NAD83 +units=m " ++
    "+no_defs"⟩,
   ⟨3413, "WGS 84 / NSIDC Sea Ice Polar Stereographic North",
    "+proj=stere +lat_0=90 +lat_ts=70 +lon_0=-45 +k=1 +x_0=0 +y_0=0 +datum=WGS84 +units=m " ++
    "+no_defs"⟩,
   ⟨3031, "WGS 84 / Antarctic Polar Stereographic",
    "+proj=stere +lat_0=-90 +lat_ts=-71 +lon_0=0 +k=1 +x_0=0 +y_0=0 +datum=WGS84 +units=m " ++
    "+no_defs"⟩]

/-- A zone on the WGS 84 datum; the switch for the south comes last. -/
def ofZone (zone : UtmZone) : SystemDefinition :=
  let common := "+proj=utm +zone=" ++ toString zone.number ++ " +datum=WGS84 +units=m +no_defs"
  ⟨zone.epsg, "WGS 84 / UTM zone " ++ zone.text,
    match zone.hemisphere with
    | .north => common
    | .south => common ++ " +south"⟩

/-- The built-in entry of a code. -/
def find? (code : Nat) : Option Entry :=
  match UtmZone.ofEpsg? code with
  | some zone => (ofZone zone).read?
  | none => (systems.find? fun system => system.code == code).bind SystemDefinition.read?

def codes : List Nat :=
  systems.map SystemDefinition.code ++ UtmZone.all.map UtmZone.epsg

end Builtin

end Georeference
