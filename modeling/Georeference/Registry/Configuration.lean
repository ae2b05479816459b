/-
**Registry configurations.**

A configuration is a YAML text in which substitutions from the environment are made first. Its
mapping may list systems under `definitions`, each with a `code`, a `name` and a `proj4` text.
Other keys are passed over. A text that shows nothing lists no systems.

* `ConfigurationError`, with its message.
* `Configuration.read`: the systems that a text lists.
* `Configuration.load`: the systems that a file lists.
* `Registry.ofConfiguration`.
-/

import Georeference.FileText
import Georeference.Registry.Basic
import Georeference.Template
import Georeference.Text.Hexadecimal
import Georeference.Text.Quoted
import Georeference.Yaml.Node

namespace Georeference

/-- Why a configuration lists no systems. -/
inductive ConfigurationError where
  | template (fault : Template.Fault)
  | malformed
  | unreadable (path : String) (fault : FileFault)
  | inFile (path : String) (error : ConfigurationError)
deriving DecidableEq, Repr

/-- The wording of an error, without what lies beneath. -/
def ConfigurationError.message : ConfigurationError → String
  | .template fault => fault.message
  | .malformed => "Failed to parse registry config YAML"
  | .unreadable path _ => "Failed to read registry config from " ++ Text.shown path
  | .inFile path _ => "Failed to parse registry config from " ++ Text.shown path

namespace Configuration

/-- The number that digits of a base denote, letters in either case. -/
def digitsInBase? (base : Nat) (digits : List Char) : Option Nat :=
  if digits.isEmpty then none
  else digits.foldlM (fun value c =>
    match Text.hexValue? c with
    | some digit => if digit < base then some (base * value + digit) else none
    | none => none) 0

/-- A number of a code without its sign: decimal digits without a zero before others, or `0x`, `0o`
or `0b` before digits of the base that it stands for. -/
def unsigned? (text : List Char) : Option Nat :=
  match text with
  | '0' :: 'x' :: digits => digitsInBase? 16 digits
  | '0' :: 'o' :: digits => digitsInBase? 8 digits
  | '0' :: 'b' :: digits => digitsInBase? 2 digits
  | '0' :: _ :: _ => none
  | digits => Decimal.natural? digits

/-- A code is a plain scalar that fits into a word of 32 bits, with a plus sign or none. -/
def code? : Yaml.Node → Option Nat
  | .scalar text true =>
    (match text.toList with
      | '+' :: rest => unsigned? rest
      | all => unsigned? all).filter fun code => code < UInt32.size
  | _ => none

def valuesOf (name : String) (fields : List (String × Yaml.Node)) : List Yaml.Node :=
  (fields.filter fun field => field.1 == name).map Prod.snd

def only? (name : String) (fields : List (String × Yaml.Node)) : Option Yaml.Node :=
  match valuesOf name fields with
  | [value] => some value
  | _ => none

/-- The system that a mapping describes. -/
def system? (node : Yaml.Node) : Option SystemDefinition := do
  let fields ← node.fields?
  let code ← (← only? "code" fields) |> code?
  let name ← (← only? "name" fields).text?
  let proj4 ← (← only? "proj4" fields).text?
  some ⟨code, name, proj4⟩

/-- The systems that a document lists. -/
def systems? (node : Yaml.Node) : Option (List SystemDefinition) := do
  let fields ← node.fields?
  match valuesOf "definitions" fields with
  | [] => some []
  | [value] => (← value.items?).mapM system?
  | _ => none

/-- The systems that an expanded text lists. -/
def ofExpanded (text : String) : Except ConfigurationError (List SystemDefinition) :=
  if Text.allBlank text.toList then .ok []
  else match (Yaml.Node.read text).bind systems? with
    | some systems => .ok systems
    | none => .error .malformed

def read (lookup : String → Option String) (text : String) :
    Except ConfigurationError (List SystemDefinition) :=
  match Template.expand lookup text with
  | .error fault => .error (.template fault)
  | .ok expanded => ofExpanded expanded

def load (lookup : String → Option String) (path : String) (contents : FileText) :
    Except ConfigurationError (List SystemDefinition) :=
  match contents with
  | .error fault => .error (.unreadable path fault)
  | .ok text =>
    match read lookup text with
    | .error error => .error (.inFile path error)
    | .ok systems => .ok systems

end Configuration

/-- The wording of the failure to build a registry from a configuration. -/
def invalidConfiguration : String := "Invalid EPSG definition in registry config"

/-- The registry that adds listed systems to the built-in ones. -/
def Registry.ofConfiguration (systems : List SystemDefinition) : Except BuildError Registry :=
  Registry.builtin.define systems

end Georeference
