/-
**What a projection asks of its definition.**

Any projection whose name is well formed is accepted; the projection `utm` must name one of the
zones.

* `isProjectionName`: a letter, then letters, digits and underscores, all of them ASCII.
* `Definition.validateZone`: whether one of the zones is named.
* `Definition.validate`: the check of a definition that was read.
* `Definition.readValid`: reading and checking together.

The number of a zone may have a sign and zeros in front, and is asked for in the same way by this
check and by whoever needs the zone of a system. So a definition that passes with the projection
`utm` has a zone, and one without a zone does not pass.
-/

import Georeference.BuildError
import Georeference.Crs

namespace Georeference

/-- A letter, then letters, digits and underscores. -/
def isProjectionName (name : String) : Bool :=
  match name.toList with
  | [] => false
  | first :: rest => first.isAlpha && rest.all fun c => c.isAlphanum || c == '_'

namespace Definition

/-- Asks for the number of a zone. -/
def validateZone (definition : Definition) : Except DefinitionFault Unit :=
  match definition.get? "zone" with
  | none => .error .missingZone
  | some text =>
    match definition.zoneNumber?.bind fun number => UtmZone.ofNumber? number .north with
    | none => .error (.zone text)
    | some _ => .ok ()

/-- Checks what the projection asks of a definition. -/
def validate (definition : Definition) : Except DefinitionFault Unit :=
  if !isProjectionName definition.projection then
    .error (.projectionName definition.projection)
  else if definition.projection = "utm" then definition.validateZone
  else .ok ()

def readValid (text : String) : Except DefinitionFault Definition :=
  match Definition.read text with
  | .error error => .error (.malformed error)
  | .ok definition =>
    match definition.validate with
    | .error fault => .error fault
    | .ok () => .ok definition

end Definition

end Georeference
