/-
**Why a system cannot be built.**

A text fails as a definition when it is malformed or when the projection does not allow it; an EPSG
code fails when it is no number or is not known. A definition that is offered for a code fails with
the fault of its text.

* `DefinitionFault`, `BuildError`: the causes.
* `BuildError.message`: the wording; `BuildError.sources`: the wording of what lies beneath.
* `BuildError.isEpsgError`: whether the failure is one of looking up a code.

Each cause has what is to blame in it, as it was written, so that its wording needs nothing else.
-/

import Georeference.Definition.Reader

namespace Georeference

/-- Why a text gives no usable definition. -/
inductive DefinitionFault where
  | malformed (error : DefinitionError)
  | projectionName (name : String)
  | missingZone
  | zone (text : String)
deriving DecidableEq, Repr

def DefinitionFault.message : DefinitionFault → String
  | .malformed error => "Invalid proj4 string: " ++ error.message
  | .projectionName name => "Invalid projection name: " ++ name
  | .missingZone => "Invalid UTM zone: missing +zone"
  | .zone text => "Invalid UTM zone: " ++ text

/-- Why a coordinate reference system cannot be built. -/
inductive BuildError where
  | definition (fault : DefinitionFault)
  | codeText (text : String)
  | unknownCode (code : Nat)
  | registryDefinition (code : Nat) (fault : DefinitionFault)
deriving DecidableEq, Repr

namespace BuildError

def message : BuildError → String
  | .definition fault => fault.message
  | .codeText text => "Invalid EPSG code: " ++ text
  | .unknownCode code => "Unknown EPSG code: " ++ toString code
  | .registryDefinition code fault =>
    "Invalid definition for EPSG:" ++ toString code ++ ": " ++ fault.message

/-- The wording of the errors that lie beneath, outermost first. -/
def sources : BuildError → List String
  | .definition (.malformed error) => [error.message]
  | _ => []

/-- Whether the failure is one of looking up a code. -/
def isEpsgError : BuildError → Bool
  | .definition _ => false
  | .codeText _ => true
  | .unknownCode _ => true
  | .registryDefinition _ _ => true

end BuildError

end Georeference
