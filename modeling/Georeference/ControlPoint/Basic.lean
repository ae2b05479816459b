/-
**Ground control points.**

A ground control point ties a place on the globe to a pixel of an image. On its line stand three
coordinates of the place, two of the pixel and the name of the image, and after these any number of
further fields, which are kept as they are.

* `ControlPoint`, `ControlPoint.read`: a point, and reading it from a line.
* `PointFault`: why a line gives no point.

The fields of a line are its words. Their number is looked at before any of them is read, and then
the five numbers from left to right; the first one that is no number is blamed by its name. Anything
that is read as a binary64 number will do, infinities among them.
-/

import Georeference.Decimal.Reader
import Georeference.Text.Blank

namespace Georeference

/-- The fields of a line that hold numbers. -/
inductive Coordinate where
  | geoX
  | geoY
  | geoZ
  | pixelX
  | pixelY
deriving DecidableEq, Repr

def Coordinate.name : Coordinate → String
  | .geoX => "geo_x"
  | .geoY => "geo_y"
  | .geoZ => "geo_z"
  | .pixelX => "pixel_x"
  | .pixelY => "pixel_y"

/-- Why a line gives no point. -/
inductive PointFault where
  | tooFewFields (found : Nat)
  | number (coordinate : Coordinate) (text : String)
deriving DecidableEq, Repr

def PointFault.message : PointFault → String
  | .tooFewFields found => "expected at least 6 fields, found " ++ toString found
  | .number coordinate text => "invalid " ++ coordinate.name ++ " '" ++ text ++ "'"

/-- A place, the pixel that shows it, the name of the image, and further fields. -/
structure ControlPoint where
  geoX : Float
  geoY : Float
  geoZ : Float
  pixelX : Float
  pixelY : Float
  image : String
  extras : List String
deriving DecidableEq

namespace ControlPoint

def readNumber (coordinate : Coordinate) (field : List Char) : Except PointFault Float :=
  match Decimal.float? field with
  | some value => .ok value
  | none => .error (.number coordinate (String.ofList field))

/-- The point that the fields of a line give. -/
def ofFields : List (List Char) → Except PointFault ControlPoint
  | geoX :: geoY :: geoZ :: pixelX :: pixelY :: image :: extras => do
    let geoX ← readNumber .geoX geoX
    let geoY ← readNumber .geoY geoY
    let geoZ ← readNumber .geoZ geoZ
    let pixelX ← readNumber .pixelX pixelX
    let pixelY ← readNumber .pixelY pixelY
    pure ⟨geoX, geoY, geoZ, pixelX, pixelY, String.ofList image, extras.map String.ofList⟩
  | fields => .error (.tooFewFields fields.length)

def read (line : List Char) : Except PointFault ControlPoint :=
  ofFields (Text.words line)

end ControlPoint

end Georeference
