/-
**Arguments of the command line.**

The arguments name at most one header, and options: `--gcp-file`, `--registry`, `--format` and
`--log-level` with a value, which follows as the next argument or behind an equals sign, and
`--json-logs` and `--help` without one. Each option is given at most once, and a header and a file
exclude each other. After `--` no argument is an option. Registry and log level may come from the
environment.

* `Arguments`: what is asked for.
* `Refusal`: why nothing can be done.
* `Arguments.read`.
* `Arguments.paths`, `Arguments.wantInput`: what has to be read for them.
-/

import Georeference.Environment
import Georeference.Report
import Georeference.Text.Search

namespace Georeference.CommandLine

/-- The options that take a value. -/
inductive ValueOption where
  | pointFile
  | registry
  | format
  | logLevel
deriving DecidableEq, Repr

def ValueOption.name : ValueOption → String
  | .pointFile => "--gcp-file"
  | .registry => "--registry"
  | .format => "--format"
  | .logLevel => "--log-level"

def ValueOption.ofName? (name : String) : Option ValueOption :=
  [ValueOption.pointFile, .registry, .format, .logLevel].find? fun option => option.name == name

/-- What is asked for. -/
structure Arguments where
  header : Option String
  pointFile : Option String
  registry : Option String
  format : Option ReportFormat
  logLevel : Option String
  jsonLogs : Bool
deriving DecidableEq, Repr

/-- Why nothing can be done: help is asked for, or the arguments make no sense. -/
inductive Refusal where
  | help
  | misuse
deriving DecidableEq, Repr

namespace Arguments

/-- The arguments before the first one is read. -/
def none : Arguments := ⟨Option.none, Option.none, Option.none, Option.none, Option.none, false⟩

/-- Takes the value of an option that has none yet. A path is not empty. -/
def setOption (arguments : Arguments) (option : ValueOption) (value : String) :
    Except Refusal Arguments :=
  match option with
  | .pointFile =>
    if arguments.pointFile.isSome || value.isEmpty then .error .misuse
    else .ok { arguments with pointFile := some value }
  | .registry =>
    if arguments.registry.isSome || value.isEmpty then .error .misuse
    else .ok { arguments with registry := some value }
  | .format =>
    match arguments.format, ReportFormat.ofName? value with
    | Option.none, some format => .ok { arguments with format := some format }
    | _, _ => .error .misuse
  | .logLevel =>
    if arguments.logLevel.isSome then .error .misuse
    else .ok { arguments with logLevel := some value }

def setHeader (arguments : Arguments) (header : String) : Except Refusal Arguments :=
  if arguments.header.isSome then .error .misuse
  else .ok { arguments with header := some header }

/-- Whether an argument looks like an option. A hyphen alone does not. -/
def looksLikeOption (argument : String) : Bool :=
  match argument.toList with
  | '-' :: _ :: _ => true
  | _ => false

/-- Reads an option that begins with two hyphens and has no value behind an equals sign. -/
def setSwitch (arguments : Arguments) (argument : String) : Except Refusal Arguments :=
  if argument = "--help" then .error .help
  else if argument = "--json-logs" && !arguments.jsonLogs then
    .ok { arguments with jsonLogs := true }
  else .error .misuse

def readHeaders (arguments : Arguments) : List String → Except Refusal Arguments
  | [] => .ok arguments
  | argument :: rest =>
    match arguments.setHeader argument with
    | .error refusal => .error refusal
    | .ok arguments => readHeaders arguments rest

/-- Reads an argument of one hyphen and some letters, of which only `h` has a meaning. -/
def refuseLetters (letters : List Char) : Refusal :=
  if letters.head? == some 'h' then .help else .misuse

def readAll (arguments : Arguments) : List String → Except Refusal Arguments
  | [] => .ok arguments
  | [argument] => readLast arguments argument
  | argument :: next :: rest =>
    if argument = "--" then readHeaders arguments (next :: rest)
    else match ValueOption.ofName? argument with
      | some option =>
        if looksLikeOption next then .error .misuse
        else match arguments.setOption option next with
          | .error refusal => .error refusal
          | .ok arguments => readAll arguments rest
      | Option.none =>
        match readLast arguments argument with
        | .error refusal => .error refusal
        | .ok arguments => readAll arguments (next :: rest)
where
  /-- Reads an argument that needs no other one behind it. -/
  readLast (arguments : Arguments) (argument : String) : Except Refusal Arguments :=
    match argument.toList with
    | ['-', '-'] => .ok arguments
    | '-' :: '-' :: _ =>
      match Text.cut? ['='] argument.toList with
      | some (name, value) =>
        match ValueOption.ofName? (String.ofList name) with
        | some option => arguments.setOption option (String.ofList value)
        | Option.none => .error .misuse
      | Option.none => arguments.setSwitch argument
    | '-' :: c :: letters => .error (refuseLetters (c :: letters))
    | _ => arguments.setHeader argument

/-- Takes the registry from the environment, where it is not given. -/
def withEnvironment (arguments : Arguments) (environment : Environment) :
    Except Refusal Arguments :=
  match arguments.registry, environment.lookup "SRS_REGISTRY" with
  | Option.none, some path => arguments.setOption .registry path
  | _, _ => .ok arguments

/-- Reads arguments, and completes them from the environment. -/
def read (environment : Environment) (arguments : List String) : Except Refusal Arguments :=
  match readAll none arguments with
  | .error refusal => .error refusal
  | .ok given =>
    if given.header.isSome && given.pointFile.isSome then .error .misuse
    else given.withEnvironment environment

def paths (arguments : Arguments) : List String :=
  arguments.registry.toList ++ arguments.pointFile.toList

/-- Whether arguments leave the headers to the standard input. -/
def wantInput (arguments : Arguments) : Bool :=
  arguments.header.isNone && arguments.pointFile.isNone

end Arguments

end Georeference.CommandLine
