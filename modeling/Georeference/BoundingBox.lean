/-
**Bounding boxes.**

A box is given by its western, southern, eastern and northern edge in degrees. Nothing is asked of
the edges: a box may be empty, or have infinities among them.

* `BoundingBox.ofDegrees`: a box with whole edges; `BoundingBox.world`: the whole globe.
* `BoundingBox.contains`: whether a point lies in a box, its edges included.
* `BoundingBox.text`: the four edges separated by commas.
-/

import Georeference.Decimal.Shortest

namespace Georeference

/-- A box by its edges, in degrees of longitude and latitude. -/
structure BoundingBox where
  west : Float
  south : Float
  east : Float
  north : Float
deriving DecidableEq

namespace BoundingBox

/-- A box whose edges are whole degrees. -/
def ofDegrees (west south east north : Int) : BoundingBox :=
  ⟨Float.ofInt west, Float.ofInt south, Float.ofInt east, Float.ofInt north⟩

def world : BoundingBox := ofDegrees (-180) (-90) 180 90

/-- The width in degrees of longitude. -/
def width (box : BoundingBox) : Float := box.east - box.west

/-- The height in degrees of latitude. -/
def height (box : BoundingBox) : Float := box.north - box.south

/-- Whether a point lies in the box, its edges included. -/
def contains (box : BoundingBox) (longitude latitude : Float) : Bool :=
  box.west ≤ longitude && longitude ≤ box.east && box.south ≤ latitude && latitude ≤ box.north

/-- The edges separated by commas, from the west on. -/
def text (box : BoundingBox) : String :=
  ",".intercalate ([box.west, box.south, box.east, box.north].map Decimal.plainText)

end BoundingBox

end Georeference
