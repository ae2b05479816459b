/-
**Zones of the Universal Transverse Mercator system.**

The system has sixty zones, each a band of six degrees of longitude that is used on either
hemisphere. On the WGS 84 datum each zone has an EPSG code. Where a zone lies can be said in whole
degrees; the area in which it is used has edges in floating point, and they are worked out there.

* `Hemisphere`, `Hemisphere.ofLetter`: only the letter `S` means the south.
* `UtmZone`, `UtmZone.ofNumber?`: the zones numbered from 1 to 60.
* `UtmZone.epsg` and `UtmZone.ofEpsg?`: the codes and back.
* `UtmZone.centralMeridian`, `UtmZone.longitudes`: where a zone lies, in whole degrees.
* `UtmZone.roundedMeridian`, `UtmZone.roundedLongitudes`: the same in floating point.
* `UtmZone.bounds`: the area where a zone is used.
-/

import Georeference.BoundingBox

namespace Georeference

/-- One of the two halves of the globe. -/
inductive Hemisphere where
  | north
  | south
deriving DecidableEq, Repr

namespace Hemisphere

/-- The hemisphere that the letter of a zone means: `S` in either case is the south, and every
other character is the north. -/
def ofLetter (c : Char) : Hemisphere :=
  if c = 'S' || c = 's' then .south else .north

def letter : Hemisphere → Char
  | .north => 'N'
  | .south => 'S'

def name : Hemisphere → String
  | .north => "North"
  | .south => "South"

def ofName? (name : String) : Option Hemisphere :=
  if name = "North" then some .north
  else if name = "South" then some .south
  else none

theorem ofLetter_letter (hemisphere : Hemisphere) : ofLetter hemisphere.letter = hemisphere := by
  cases hemisphere <;> rfl

theorem ofName?_name (hemisphere : Hemisphere) : ofName? hemisphere.name = some hemisphere := by
  cases hemisphere <;> rfl

end Hemisphere

/-- A zone number with a hemisphere. Numbers outside 1 to 60 belong to no zone of the system, but
can be written down all the same. -/
structure UtmZone where
  number : Nat
  hemisphere : Hemisphere
deriving DecidableEq, Repr

namespace UtmZone

/-- The zone with a number, for the numbers from 1 to 60. -/
def ofNumber? (number : Int) (hemisphere : Hemisphere) : Option UtmZone :=
  if 1 ≤ number && number ≤ 60 then some ⟨number.toNat, hemisphere⟩ else none

/-- The code before that of the first zone of a hemisphere. -/
def epsgBase : Hemisphere → Nat
  | .north => 32600
  | .south => 32700

/-- The EPSG code of the zone on the WGS 84 datum. -/
def epsg (zone : UtmZone) : Nat :=
  epsgBase zone.hemisphere + zone.number

/-- The zone that an EPSG code stands for. -/
def ofEpsg? (code : Nat) : Option UtmZone :=
  if 32601 ≤ code && code ≤ 32660 then some ⟨code - 32600, .north⟩
  else if 32701 ≤ code && code ≤ 32760 then some ⟨code - 32700, .south⟩
  else none

/-- The longitude in the middle of the zone, in whole degrees. -/
def centralMeridian (zone : UtmZone) : Int :=
  6 * zone.number - 183

/-- The longitudes at the western and the eastern edge of the zone, in whole degrees. -/
def longitudes (zone : UtmZone) : Int × Int :=
  (zone.centralMeridian - 3, zone.centralMeridian + 3)

/-- The longitude in the middle of the zone, worked out in floating point. -/
def roundedMeridian (zone : UtmZone) : Float :=
  -183 + 6 * Float.ofNat zone.number

/-- The longitudes at the edges of the zone, worked out in floating point. -/
def roundedLongitudes (zone : UtmZone) : Float × Float :=
  (zone.roundedMeridian - 3, zone.roundedMeridian + 3)

/-- The area where the zone is used: from the equator to 84 degrees north or 80 degrees south. -/
def bounds (zone : UtmZone) : BoundingBox :=
  let (west, east) := zone.roundedLongitudes
  match zone.hemisphere with
  | .north => ⟨west, 0, east, 84⟩
  | .south => ⟨west, -80, east, 0⟩

/-- The number of the zone and the letter of its hemisphere. -/
def text (zone : UtmZone) : String :=
  toString zone.number ++ String.singleton zone.hemisphere.letter

/-- Every zone of the system, each number on the northern and then the southern hemisphere. -/
def all : List UtmZone :=
  (List.range' 1 60).flatMap fun number => [⟨number, .north⟩, ⟨number, .south⟩]

end UtmZone

end Georeference
