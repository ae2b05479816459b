/-
**Reading definitions.**

The words of a text are read from left to right. Each starts with `+`, has a key that is not empty
and was not given before, and after the first `=` a value. A definition has a `+proj` parameter with
a value. Nothing about particular projections is asked here.

* `DefinitionError`: why a text is not a definition, with `DefinitionError.message`.
* `Parameter.ofWord`: reading one word.
* `readWords`: reading words one after the other, with the parameters that were read before.
* `Definition.read`: reading a text.

The first word that cannot be read ends the reading, and only a text of which all words can be read
is asked for its projection. So there is one error for each text, and it is that of the leftmost
word at fault.
-/

import Georeference.Definition.Basic
import Georeference.Text.Blank

namespace Georeference

/-- Why a text is not a definition. -/
inductive DefinitionError where
  | empty
  | missingPlus (word : String)
  | emptyKey (word : String)
  | duplicateKey (key : String)
  | missingValue (key : String)
  | missingProjection
deriving DecidableEq, Repr

def DefinitionError.message : DefinitionError → String
  | .empty => "proj4 string is empty"
  | .missingPlus word => "proj4 parameter must start with '+': " ++ word
  | .emptyKey word => "proj4 parameter has an empty name: " ++ word
  | .duplicateKey key => "proj4 parameter given more than once: " ++ key
  | .missingValue key => "proj4 parameter requires a value: " ++ key
  | .missingProjection => "proj4 string has no +proj parameter"

/-- The parameter that the characters after a `+` stand for: the key ends at the first `=`. -/
def Parameter.ofBody (body : List Char) : Parameter :=
  match Text.cut? ['='] body with
  | some (key, value) => ⟨String.ofList key, some (String.ofList value)⟩
  | none => ⟨String.ofList body, none⟩

def Parameter.ofWord (word : List Char) : Except DefinitionError Parameter :=
  match word with
  | '+' :: body =>
    let parameter := Parameter.ofBody body
    if parameter.key.isEmpty then .error (.emptyKey (String.ofList word)) else .ok parameter
  | _ => .error (.missingPlus (String.ofList word))

namespace Definition

/-- Reads the words after parameters that have been read already. -/
def readWords (earlier : List Parameter) :
    List (List Char) → Except DefinitionError (List Parameter)
  | [] => .ok earlier
  | word :: rest =>
    match Parameter.ofWord word with
    | .error fault => .error fault
    | .ok parameter =>
      if earlier.any fun known => known.key == parameter.key then
        .error (.duplicateKey parameter.key)
      else readWords (earlier ++ [parameter]) rest

/-- Asks for a projection name that is not empty. -/
def requireProjection (definition : Definition) : Except DefinitionError Definition :=
  if definition.parameters.isEmpty then .error .empty
  else match definition.find? "proj" with
    | none => .error .missingProjection
    | some parameter =>
      if (parameter.value.getD "").isEmpty then .error (.missingValue "proj") else .ok definition

def read (text : String) : Except DefinitionError Definition :=
  match readWords [] (Text.words text.toList) with
  | .error fault => .error fault
  | .ok parameters => requireProjection ⟨parameters⟩

end Definition

end Georeference
