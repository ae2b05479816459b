/-
**Projection definitions.**

A definition is a list of parameters, each a `+key=value` or a bare `+key`, kept in the order in
which they were written. Readers of a definition ask for the value of a key, for the presence of a
key, or whether a switch is set; two definitions are equivalent when they carry the same parameters
in any order, a switch counting the same however it is set.

* `Parameter`, `Parameter.isSetFlag`, `Parameter.comparableValue`, `Parameter.text`.
* `Definition`, `Definition.get?`, `Definition.contains`, `Definition.hasFlag`,
  `Definition.projection`, `Definition.text`, `Definition.equivalent`.

A parameter without a value and one with an empty value are different, and both can be written. A
list may have a key twice, since nothing is asked of it here; those that come from reading a text do
not. Comparing takes as many parameters on both sides and looks for each of the one among the
others, so it is the reader that makes it symmetric.
-/

import Georeference.Text.Search

namespace Georeference

/-- One parameter of a definition, a bare switch when it has no value. -/
structure Parameter where
  key : String
  value : Option String
deriving DecidableEq, Repr

namespace Parameter

/-- A parameter that is written with its value. -/
def assign (key value : String) : Parameter := ⟨key, some value⟩

def flag (key : String) : Parameter := ⟨key, none⟩

/-- A switch is set when it is bare or when its value is `true` in any case. -/
def isSetFlag (parameter : Parameter) : Bool :=
  match parameter.value with
  | none => true
  | some value => Text.sameIgnoringCase value.toList "true".toList

/-- The value as far as comparing definitions goes: all set switches look the same. -/
def comparableValue (parameter : Parameter) : Option String :=
  if parameter.isSetFlag then none else parameter.value

/-- The parameter as it is written. -/
def text (parameter : Parameter) : String :=
  match parameter.value with
  | none => "+" ++ parameter.key
  | some value => "+" ++ parameter.key ++ "=" ++ value

end Parameter

/-- The parameters of a projection in the order in which they were written. -/
structure Definition where
  parameters : List Parameter
deriving DecidableEq, Repr

namespace Definition

def find? (definition : Definition) (key : String) : Option Parameter :=
  definition.parameters.find? fun parameter => parameter.key == key

/-- The value of a key, if it is present with one. -/
def get? (definition : Definition) (key : String) : Option String :=
  (definition.find? key).bind Parameter.value

def contains (definition : Definition) (key : String) : Bool :=
  definition.parameters.any fun parameter => parameter.key == key

/-- Whether a key is present as a set switch. -/
def hasFlag (definition : Definition) (key : String) : Bool :=
  definition.parameters.any fun parameter => parameter.key == key && parameter.isSetFlag

/-- The name of the projection, which every definition that was read has. -/
def projection (definition : Definition) : String :=
  (definition.get? "proj").getD ""

/-- The definition as it is written, its parameters separated by single spaces. -/
def text (definition : Definition) : String :=
  " ".intercalate (definition.parameters.map Parameter.text)

/-- Whether two definitions carry the same parameters in any order. -/
def equivalent (first second : Definition) : Bool :=
  first.parameters.length == second.parameters.length &&
    first.parameters.all fun mine =>
      second.parameters.any fun other =>
        other.key == mine.key && other.comparableValue == mine.comparableValue

end Definition

end Georeference
