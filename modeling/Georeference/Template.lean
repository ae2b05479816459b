/-
**Templates.**

A template is a text with substitutions in it, each from `${` to the next closing brace. Between the
braces stands a name, or a name and a default with `:-` between them. Blank characters around the
name do not count. What is put in place of a substitution is not looked at again.

* `Template.scan`, `Template.parts`: the characters and substitutions of a text, from left to right.
* `Template.resolve`: what stands for one part.
* `Template.resolveAll`, `Template.expand`: what stands for the whole text, or the leftmost error.

The text is cut into parts before any of them is looked up, and the environment is a function from
names to values. While a substitution is open the scan keeps what it has read of it, so it goes
through the text once, and an opening brace inside of a substitution begins no other.
-/

import Georeference.Text.Blank
import Georeference.Text.Search

namespace Georeference.Template

/-- A part of a template. Only the last part can be an unclosed one. -/
inductive Part where
  | literal (c : Char)
  | substitution (expression : List Char)
  | unclosed (expression : List Char)
deriving DecidableEq, Repr

/-- Why a template stands for no text. -/
inductive Fault where
  | unset (expression : String)
  | unclosed (expression : String)
deriving DecidableEq, Repr

def Fault.message : Fault → String
  | .unset expression => "Environment variable " ++ expression ++ " not set"
  | .unclosed expression => "Unclosed variable substitution: $\x7b" ++ expression

/-- The parts of a text. While a substitution is open its expression is kept, last character
first. -/
def scan : Option (List Char) → List Char → List Part
  | none, [] => []
  | none, '$' :: '\x7b' :: rest => scan (some []) rest
  | none, c :: rest => .literal c :: scan none rest
  | some open_, [] => [.unclosed open_.reverse]
  | some open_, c :: rest =>
    if c = '\x7d' then .substitution open_.reverse :: scan none rest
    else scan (some (c :: open_)) rest

/-- The parts of a text, from left to right. -/
def parts (text : List Char) : List Part := scan none text

/-- The value of a name with the blank characters around it dropped. -/
def valueOf (lookup : String → Option String) (name : List Char) : Option String :=
  lookup (String.ofList (Text.trim name))

/-- What stands for an expression: the value of its name, or the default if it has one and the
value is missing or empty. -/
def evaluate (lookup : String → Option String) (expression : List Char) :
    Except Fault (List Char) :=
  match Text.cut? [':', '-'] expression with
  | some (name, default) =>
    match valueOf lookup name with
    | some value => if value.isEmpty then .ok default else .ok value.toList
    | none => .ok default
  | none =>
    match valueOf lookup expression with
    | some value => .ok value.toList
    | none => .error (.unset (String.ofList expression))

def resolve (lookup : String → Option String) : Part → Except Fault (List Char)
  | .literal c => .ok [c]
  | .substitution expression => evaluate lookup expression
  | .unclosed expression => .error (.unclosed (String.ofList expression))

def resolveAll (lookup : String → Option String) : List Part → Except Fault (List Char)
  | [] => .ok []
  | part :: rest =>
    match resolve lookup part with
    | .error fault => .error fault
    | .ok text => (resolveAll lookup rest).map (text ++ ·)

/-- What stands for a text. -/
def expand (lookup : String → Option String) (text : String) : Except Fault String :=
  (resolveAll lookup (parts text.toList)).map String.ofList

end Georeference.Template
