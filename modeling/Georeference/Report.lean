/-
**Reports.**

A report shows what a header was resolved to. As text it has one line for each thing that is known;
as JSON it has a member for each, `null` where nothing is known.

* `Report.ofCrs`, `Report.ofFile`: the report on a header, and on the header of a file with the
  number of its points and the names of their images.
* `Report.lines`, `Report.text`: the report as text.
* `Report.json`: the report as an object.
* `Report.render`: one of the two forms.

Everything in a report but its header is taken from the system, and everything in that but its code
and its name from the definition. The header is trimmed, and the definition is written anew from its
parameters. In text form a line is a label, a colon, a space and what is known; the count of the
points and the names of the images are left out of either form where there is no file.
-/

import Georeference.ControlPoint.File
import Georeference.Json.Records

namespace Georeference

/-- The two forms of a report. -/
inductive ReportFormat where
  | text
  | json
deriving DecidableEq, Repr

def ReportFormat.ofName? (name : String) : Option ReportFormat :=
  if name = "text" then some .text
  else if name = "json" then some .json
  else none

/-- What a header was resolved to, with the counts of its file if it stands in one. -/
structure Report where
  header : String
  proj4 : String
  epsg : Option Nat
  name : Option String
  projection : String
  datum : Option String
  units : Option String
  geographic : Bool
  utmZone : Option UtmZone
  areaOfUse : Option BoundingBox
  pointCount : Option Nat
  images : Option (List String)
deriving DecidableEq

namespace Report

/-- The report on a header alone. -/
def ofCrs (header : String) (crs : Crs) : Report where
  header := String.ofList (Text.trim header.toList)
  proj4 := crs.proj4
  epsg := crs.epsg
  name := crs.name
  projection := crs.projection
  datum := crs.datum?
  units := crs.units?
  geographic := crs.isGeographic
  utmZone := crs.utmZone?
  areaOfUse := crs.areaOfUse?
  pointCount := none
  images := none

/-- The report on the header of a file, with the number of its points and their images. -/
def ofFile (file : ControlPointFile Crs) : Report :=
  { ofCrs file.header file.system with
    pointCount := some file.points.length
    images := some file.images }

/-- A line of a report, if there is something to show on it. -/
def line (label : String) (value : Option String) : List String :=
  value.toList.map fun shown => label ++ ": " ++ shown

def lines (report : Report) : List String :=
  line "header" (some report.header) ++
    line "proj4" (some report.proj4) ++
    line "epsg" (report.epsg.map toString) ++
    line "name" report.name ++
    line "projection" (some report.projection) ++
    line "datum" report.datum ++
    line "units" report.units ++
    line "geographic" (some (toString report.geographic)) ++
    line "utm_zone" (report.utmZone.map UtmZone.text) ++
    line "area_of_use" (report.areaOfUse.map BoundingBox.text) ++
    line "gcp_count" (report.pointCount.map toString) ++
    line "images" (report.images.map (", ".intercalate ·))

def text (report : Report) : String :=
  "\n".intercalate report.lines

/-- A member of a report that is left out when nothing is known. -/
def optionalMember (name : String) (value : Option String) : List (String × String) :=
  value.toList.map fun written => (name, written)

def json (report : Report) : String :=
  Json.object
    ([("header", Json.quoted report.header),
      ("proj4", Json.quoted report.proj4),
      ("epsg", Json.orNull toString report.epsg),
      ("name", Json.orNull Json.quoted report.name),
      ("projection", Json.quoted report.projection),
      ("datum", Json.orNull Json.quoted report.datum),
      ("units", Json.orNull Json.quoted report.units),
      ("geographic", toString report.geographic),
      ("utm_zone", Json.orNull (Json.quoted ·.text) report.utmZone),
      ("area_of_use", Json.orNull BoundingBox.json report.areaOfUse)] ++
      optionalMember "gcp_count" (report.pointCount.map toString) ++
      optionalMember "images" (report.images.map fun images => Json.array (images.map Json.quoted)))

/-- A report in one of its forms. -/
def render (report : Report) : ReportFormat → String
  | .text => report.text
  | .json => report.json

end Report

end Georeference
