/-
**Reading environment files.**

Each line assigns a value to a name, with the word `export` before it or not. A name that is set
already keeps its value. The first line that makes no sense ends the reading, but the lines before
it count. A value that cannot be set spoils the whole file.

* `readLine`: the assignment of a line.
* `Environment.withFile?`: an environment after reading a file.
-/

import Georeference.Environment
import Georeference.EnvironmentFile.Line
import Georeference.EnvironmentFile.Value

namespace Georeference

namespace EnvironmentFile

/-- What a line does. -/
inductive Assignment where
  | none
  | set (name value : String)
deriving DecidableEq, Repr

/-- The characters that a name begins with. -/
def beginsName (c : Char) : Bool := c.isAlpha || c == '_'

def belongsToName (c : Char) : Bool := c.isAlphanum || c == '_' || c == '.'

/-- A name and what follows it, white space dropped. -/
def readName (text : List Char) : Option (List Char × List Char) :=
  match text with
  | [] => Option.none
  | c :: _ =>
    if beginsName c then
      some (text.takeWhile belongsToName, Text.trimStart (text.dropWhile belongsToName))
    else Option.none

/-- The text behind an equals sign, white space dropped. -/
def afterEquals? : List Char → Option (List Char)
  | '=' :: rest => some (Text.trimStart rest)
  | _ => Option.none

/-- A name and the text behind its equals sign. The name `export` may stand before another. -/
def readAssignment (text : List Char) : Option (List Char × List Char) :=
  (readName text).bind fun (name, rest) =>
    match afterEquals? rest with
    | some value => some (name, value)
    | Option.none =>
      if name = "export".toList then
        (readName rest).bind fun (name, rest) =>
          (afterEquals? rest).map fun value => (name, value)
      else Option.none

/-- The assignment of a line, without the white space around it; a line that shows nothing or a
comment makes none. -/
def readLine (lookup : String → Option String) (line : List Char) : Option Assignment :=
  let shown := Text.trim line
  if shown.isEmpty || shown.head? == some '#' then some .none
  else (readAssignment shown).bind fun (name, text) =>
    if text.isEmpty || text.head? == some '#' then some (.set (String.ofList name) "")
    else (readValue lookup text).map fun value => .set (String.ofList name) value

end EnvironmentFile

namespace Environment

/-- Makes the assignments of lines, up to the first line that makes no sense, if the values up to
there can be set. -/
def withLines? (environment : Environment) : List (List Char) → Option Environment
  | [] => some environment
  | line :: rest =>
    match EnvironmentFile.readLine environment.lookup line with
    | none => some environment
    | some .none => withLines? environment rest
    | some (.set name value) =>
      (environment.setDefault? name value).bind fun next => withLines? next rest

/-- The environment after reading a file, with or without a byte order mark, if the values in it
can be set. -/
def withFile? (environment : Environment) (text : String) : Option Environment :=
  let content := match text.toList with
    | '\ufeff' :: rest => rest
    | all => all
  environment.withLines? (EnvironmentFile.logicalLines content)

end Environment

end Georeference
