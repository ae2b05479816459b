/-
**Sample headers and files.**

* `UtmZone.header`, `sampleHeaders`: the header of each zone of the system.
* `sampleFields`, `samplePoint`: one line, by its index.
* `sampleFile`: a header and a number of points, which step ten metres to the east from point to
  point and alternate between two images.

The coordinates of a point are worked out in binary64 and written with one place; its pixels are
whole numbers, and its label is its index with at least two digits.
-/

import Georeference.Decimal.Fixed
import Georeference.Utm

namespace Georeference

def UtmZone.header (zone : UtmZone) : String :=
  "WGS84 UTM " ++ zone.text

/-- The header of each zone, with the zone. -/
def sampleHeaders : List (String × UtmZone) :=
  UtmZone.all.map fun zone => (zone.header, zone)

/-- The fields of a point: the place to one decimal of a metre, the pixel, the image and a label. -/
def sampleFields (index : Nat) : List String :=
  [Decimal.fixedText 1 (500000 + 10 * index.toFloat), Decimal.fixedText 1 4649776,
    Decimal.fixedText 1 100, toString (1000 + index), toString (800 + index),
    "IMG_" ++ Decimal.paddedText 4 (index % 2) ++ ".jpg", "gcp" ++ Decimal.paddedText 2 index]

def samplePoint (index : Nat) : String :=
  " ".intercalate (sampleFields index)

/-- A header and the lines of some points, each line ended by a line feed. -/
def sampleFile (header : String) (count : Nat) : String :=
  header ++ "\n" ++ String.join ((List.range count).map fun index => samplePoint index ++ "\n")

end Georeference
