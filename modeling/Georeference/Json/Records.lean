/-
**Records as JSON.**

A record is written as an object whose members stand in the order of its fields. It is read from
such an object with its members in any order, or from an array of its fields.

* `Hemisphere.json`, `UtmZone.json`, `BoundingBox.json`, `SystemDefinition.json`: what is written.
* `Hemisphere.ofJson?`, `UtmZone.ofJson?`, `BoundingBox.ofJson?`, `SystemDefinition.ofJson?`: what
  is read.

A field is read as a value of its type and not checked any further. So the number of a zone may be
any of eight bits, and the edges of a box any numbers; what is known of the zones that are made from
numbers or from codes does not hold of all that are read. A hemisphere is written by its name alone,
and is read from its name or from an object with that name before a `null`.
-/

import Georeference.Json.Number
import Georeference.Json.Writer
import Georeference.Registry.Basic

namespace Georeference

namespace Hemisphere

/-- A hemisphere is written by its name. -/
def json (hemisphere : Hemisphere) : String :=
  Json.quoted hemisphere.name

/-- A hemisphere is read from its name, or from an object with that name before a `null`. -/
def ofJson? : Json.Value → Option Hemisphere
  | .text (some name) => ofName? name
  | .object [(some name, .null)] => ofName? name
  | _ => none

end Hemisphere

namespace UtmZone

/-- A zone is written as its number and its hemisphere. -/
def json (zone : UtmZone) : String :=
  Json.object [("number", toString zone.number), ("hemisphere", zone.hemisphere.json)]

/-- A zone is read from any number of eight bits and a hemisphere. -/
def ofJson? (value : Json.Value) : Option UtmZone :=
  match value.fields? ["number", "hemisphere"] with
  | some [number, hemisphere] => do
    let number ← number.natural? UInt8.size
    let hemisphere ← Hemisphere.ofJson? hemisphere
    some ⟨number, hemisphere⟩
  | _ => none

end UtmZone

namespace BoundingBox

/-- A box is written as its four edges. -/
def json (box : BoundingBox) : String :=
  Json.object [("west", Json.number box.west), ("south", Json.number box.south),
    ("east", Json.number box.east), ("north", Json.number box.north)]

/-- A box is read from its four edges. -/
def ofJson? (value : Json.Value) : Option BoundingBox :=
  match value.fields? ["west", "south", "east", "north"] with
  | some [west, south, east, north] => do
    let west ← west.float?
    let south ← south.float?
    let east ← east.float?
    let north ← north.float?
    some ⟨west, south, east, north⟩
  | _ => none

end BoundingBox

namespace SystemDefinition

/-- A system that is offered to a registry is written as its three fields. -/
def json (system : SystemDefinition) : String :=
  Json.object [("code", toString system.code), ("name", Json.quoted system.name),
    ("proj4", Json.quoted system.proj4)]

/-- A system that is offered to a registry is read from its three fields. -/
def ofJson? (value : Json.Value) : Option SystemDefinition :=
  match value.fields? ["code", "name", "proj4"] with
  | some [code, name, proj4] => do
    let code ← code.natural? UInt32.size
    let name ← name.text?
    let proj4 ← proj4.text?
    some ⟨code, name, proj4⟩
  | _ => none

end SystemDefinition

end Georeference
