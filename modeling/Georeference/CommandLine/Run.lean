/-
**A run of the program.**

The program resolves a header, the header of a file of control points, or each line of its standard
input that is not blank. The environment is completed from a file first, and the registry from
another.

* `World`: what a run may ask for.
* `World.completed?`: the world of a run with its environment completed.
* `World.registry`, `World.headers`: the registry of a run and the headers that it resolves.
* `run`: the outcome of a run.

A world is everything that a run can read, given beforehand: its arguments, the environment, the
text of every file by its path, and the standard input. So a run is a function of its world, and
only the program around it asks the system for anything. The steps come in a fixed order, and the
first that fails decides the outcome: the environment, the arguments, the registry, and then the
file or the headers.
-/

import Georeference.CommandLine.Arguments
import Georeference.CommandLine.Batch
import Georeference.CommandLine.Usage
import Georeference.EnvironmentFile.Basic
import Georeference.Registry.Configuration

namespace Georeference.CommandLine

/-- What a run may ask for: its arguments, the environment, files by their paths, and the standard
input. -/
structure World where
  arguments : List String
  environment : Environment
  file : String → FileText
  input : FileText

/-- The name of the file that completes the environment. -/
def environmentFileName : String := ".env"

/-- The world with its environment completed from the file for it, if there is one. A file whose
values cannot be set leaves no world to run in. -/
def World.completed? (world : World) : Option World :=
  match world.file environmentFileName with
  | .ok text =>
    (world.environment.withFile? text).map fun environment => { world with environment }
  | .error _ => some world

def World.given (world : World) : Except Refusal Arguments :=
  Arguments.read world.environment world.arguments

def World.registry (world : World) (path : Option String) : Except String Registry :=
  match path with
  | none => .ok .builtin
  | some path =>
    match Configuration.load world.environment.lookup path (world.file path) with
    | .error error => .error error.message
    | .ok systems =>
      match Registry.ofConfiguration systems with
      | .error _ => .error invalidConfiguration
      | .ok registry => .ok registry

def pointFileOutcome (world : World) (registry : Registry) (format : ReportFormat) (path : String) :
    Outcome :=
  match (ControlPointFile.readContents registry.resolver (world.file path)).run with
  | .error _ => .failure ("Failed to load GCP file " ++ Text.shown path)
  | .ok file => ⟨0, (Report.ofFile file).render format ++ "\n", []⟩

/-- The lines of a text that are not blank, as they are written. -/
def headersOf (text : String) : List String :=
  ((Text.lines text.toList).filter fun line => !Text.allBlank line).map String.ofList

/-- The headers of a run: the one that is given, or those of the standard input. -/
def World.headers (world : World) (header : Option String) : Except String (List String) :=
  match header with
  | some header => .ok [header]
  | none =>
    match world.input with
    | .error _ => .error "Failed to read stdin"
    | .ok text => .ok (headersOf text)

def perform (world : World) (arguments : Arguments) : Outcome :=
  match world.registry arguments.registry with
  | .error message => .failure message
  | .ok registry =>
    let format := arguments.format.getD .text
    match arguments.pointFile with
    | some path => pointFileOutcome world registry format path
    | none =>
      match world.headers arguments.header with
      | .error message => .failure message
      | .ok headers => batch ⟨registry, format, arguments.registry.isSome⟩ headers

def World.outcome (world : World) : Outcome :=
  match world.given with
  | .error .help => ⟨0, usage world.environment, []⟩
  | .error .misuse => ⟨2, "", []⟩
  | .ok arguments => perform world arguments

/-- The outcome of a run. It breaks off with code 101 where the environment cannot be
completed. -/
def run (world : World) : Outcome :=
  match world.completed? with
  | none => ⟨101, "", []⟩
  | some world => world.outcome

end Georeference.CommandLine
