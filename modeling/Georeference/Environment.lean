/-
**Environments.**

An environment gives texts to names. It is kept as entries `name=value`, and asking for a name
looks for an entry that begins with it and an equals sign. So a name that itself holds an equals
sign can be found inside the value of a shorter one. The empty name is never set. A null character
ends an entry, so no value that is set holds one.

* `Environment.lookup`, `Environment.isSet`.
* `Environment.setDefault?`: sets a name that is not set yet, if the value can be kept.
* `Environment.ofBlock`: the environment that a block of entries gives.
-/

import Georeference.Text.Blank
import Georeference.Text.Search

namespace Georeference

/-- The names that are set, with their values. -/
structure Environment where
  entries : List (String × String)
deriving DecidableEq, Repr

namespace Environment

def empty : Environment := ⟨[]⟩

/-- What stands after a front part of a text. -/
def afterFront? : List Char → List Char → Option (List Char)
  | [], text => some text
  | _ :: _, [] => none
  | c :: front, d :: text => if c = d then afterFront? front text else none

def lookup (environment : Environment) (name : String) : Option String :=
  if name.isEmpty then none
  else environment.entries.findSome? fun (key, value) =>
    (afterFront? (name.toList ++ ['=']) (key.toList ++ '=' :: value.toList)).map String.ofList

def isSet (environment : Environment) (name : String) : Bool :=
  (environment.lookup name).isSome

/-- Sets a name, unless it is set already. A value with a null character cannot be set. -/
def setDefault? (environment : Environment) (name value : String) : Option Environment :=
  if environment.isSet name then some environment
  else if value.toList.contains '\u0000' then none
  else some ⟨environment.entries ++ [(name, value)]⟩

/-- The environment that a block of entries gives, each entry `name=value` with a null character
behind it. An entry without an equals sign sets nothing. -/
def ofBlock (block : String) : Environment :=
  ⟨(Text.pieces (· == '\u0000') block.toList).filterMap fun entry =>
    (Text.cut? ['='] entry).map fun (name, value) => (String.ofList name, String.ofList value)⟩

end Environment

end Georeference
