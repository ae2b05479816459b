/-
**Values in environment files.**

A value may have parts in single or double quotes. Outside single quotes a backslash escapes the
character behind it, and a dollar sign before a name, with or without braces around it, stands for
the value of that name; a name without braces ends before the first character that is not
alphanumeric. Behind white space outside quotes only a comment may follow.

* `ValueState`: what has been read of a value.
* `readValue`: the value that some characters give, if they give one.
-/

import Georeference.Text.Alphanumeric

namespace Georeference.EnvironmentFile

/-- Where a name behind a dollar sign stands. -/
inductive NameMode where
  | outside
  | bare
  | braced
deriving DecidableEq, Repr

/-- What has been read of a value; characters are kept last one first. -/
structure ValueState where
  inSingle : Bool
  inDouble : Bool
  escaped : Bool
  ended : Bool
  mode : NameMode
  name : List Char
  kept : List Char
deriving DecidableEq, Repr

namespace ValueState

def start : ValueState := ⟨false, false, false, false, .outside, [], []⟩

def keep (state : ValueState) (c : Char) : ValueState :=
  { state with kept := c :: state.kept }

/-- Puts the value of the name that was read into its place. -/
def substitute (state : ValueState) (lookup : String → Option String) : ValueState :=
  let value := (lookup (String.ofList state.name.reverse)).getD ""
  { state with name := [], mode := .outside, kept := value.toList.reverse ++ state.kept }

/-- The state behind a character that ends a name without braces. -/
def endName (state : ValueState) (lookup : String → Option String) (c : Char) : ValueState :=
  if c == '\x7b' && state.name.isEmpty then { state with mode := .braced }
  else
    let done := state.substitute lookup
    if c == '$' then { done with mode := .bare } else done.keep c

/-- The state behind a character of a name. -/
def inName (state : ValueState) (lookup : String → Option String) (c : Char) : ValueState :=
  if Text.isAlphanumeric c then { state with name := c :: state.name }
  else match state.mode with
    | .braced =>
      if c == '\x7d' then state.substitute lookup else { state with name := c :: state.name }
    | _ => state.endName lookup c

/-- The character that an escape stands for. -/
def escapedCharacter? (c : Char) : Option Char :=
  if c == 'n' then some '\n'
  else if c == '\\' || c == '\'' || c == '"' || c == '$' || c == ' ' then some c
  else none

/-- The state behind a character that no earlier one has a say about. -/
def plain (state : ValueState) (c : Char) : ValueState :=
  if c == '$' then { state with mode := .bare }
  else if c == '\\' then { state with escaped := true }
  else if state.inDouble then
    if c == '"' then { state with inDouble := false } else state.keep c
  else if c == '\'' then { state with inSingle := true }
  else if c == '"' then { state with inDouble := true }
  else if c == ' ' || c == '\t' then { state with ended := true }
  else state.keep c

def isClosed (state : ValueState) : Bool :=
  state.mode != .braced && !state.inSingle && !state.inDouble

end ValueState

def readCharacters (lookup : String → Option String) : ValueState → List Char → Option ValueState
  | state, [] => if state.isClosed then some (state.substitute lookup) else none
  | state, c :: rest =>
    if state.ended then
      if c == ' ' || c == '\t' then readCharacters lookup state rest
      else if c == '#' then readCharacters lookup state []
      else none
    else if state.escaped then
      match ValueState.escapedCharacter? c with
      | some escaped => readCharacters lookup ({ state with escaped := false }.keep escaped) rest
      | none => none
    else if state.inSingle then
      readCharacters lookup
        (if c == '\'' then { state with inSingle := false } else state.keep c) rest
    else if state.mode != .outside then readCharacters lookup (state.inName lookup c) rest
    else readCharacters lookup (state.plain c) rest

/-- The value that some characters give. -/
def readValue (lookup : String → Option String) (text : List Char) : Option String :=
  (readCharacters lookup .start text).map fun state => String.ofList state.kept.reverse

end Georeference.EnvironmentFile
