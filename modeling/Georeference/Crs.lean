/-
**Coordinate reference systems.**

A coordinate reference system is a definition, with the EPSG code and the name under which it is
known if there are any. Everything else about it is read off its definition.

* `Crs.isGeographic`: whether the coordinates are longitudes and latitudes.
* `Crs.utmZone?`: the zone of a definition of the Universal Transverse Mercator system.
* `Crs.areaOfUse?`: known for geographic systems and for such zones.
* `Crs.equivalent`: equal codes, or else equivalent definitions.
* `Crs.text`: the code if there is one, or else the definition.

Nothing is asked of a definition here, so a system may have a zone with a number that there is not,
and then has no zone. Two systems with one code are equivalent even if their definitions are not,
which is why being equivalent is no equivalence in general; it is one over what is built in.
-/

import Georeference.Definition.Basic
import Georeference.Decimal.Integer
import Georeference.Utm

namespace Georeference

/-- The projection names of systems whose coordinates are longitudes and latitudes. -/
def geographicProjections : List String := ["longlat", "latlong", "lonlat", "latlon"]

structure Crs where
  definition : Definition
  epsg : Option Nat
  name : Option String
deriving DecidableEq, Repr

namespace Crs

/-- A system that is known by its definition alone. -/
def ofDefinition (definition : Definition) : Crs := ⟨definition, none, none⟩

def projection (crs : Crs) : String := crs.definition.projection

/-- The definition as it is written. -/
def proj4 (crs : Crs) : String := crs.definition.text

def datum? (crs : Crs) : Option String := crs.definition.get? "datum"

def ellipsoid? (crs : Crs) : Option String := crs.definition.get? "ellps"

def units? (crs : Crs) : Option String := crs.definition.get? "units"

/-- Whether the coordinates are longitudes and latitudes. -/
def isGeographic (crs : Crs) : Bool := geographicProjections.contains crs.projection

end Crs

/-- The number that a definition gives as its zone: a signed word of 64 bits in decimal. -/
def Definition.zoneNumber? (definition : Definition) : Option Int :=
  (definition.get? "zone").bind fun zone => Decimal.boundedInteger? UInt64.size zone.toList

/-- The hemisphere of a definition: the south if the switch for it is set. -/
def Definition.hemisphere (definition : Definition) : Hemisphere :=
  if definition.hasFlag "south" then .south else .north

namespace Crs

/-- The zone of a definition with the projection `utm`, if its number is that of a zone. -/
def utmZone? (crs : Crs) : Option UtmZone :=
  if crs.projection = "utm" then
    crs.definition.zoneNumber?.bind fun number =>
      UtmZone.ofNumber? number crs.definition.hemisphere
  else none

/-- The area where the system is meant to be used, as far as it is known. -/
def areaOfUse? (crs : Crs) : Option BoundingBox :=
  if crs.isGeographic then some .world else crs.utmZone?.map UtmZone.bounds

/-- Equal codes are enough for two systems to be the same; otherwise their definitions are
compared. -/
def equivalent (first second : Crs) : Bool :=
  (first.epsg.isSome && first.epsg == second.epsg) ||
    first.definition.equivalent second.definition

/-- The code if there is one, or else the definition. -/
def text (crs : Crs) : String :=
  match crs.epsg with
  | some code => "EPSG:" ++ toString code
  | none => crs.proj4

end Crs

end Georeference
