/-
**Resolving headers.**

A resolver classifies a header, hands the request to its builder and reports to its log. The builder
is asked at most once for each header, and not at all when the header asks for nothing.

* `HeaderError`: a header that was refused, as it was supplied, and the cause.
* `HeaderError.message`, `HeaderError.details`: the wordings for one line and for several.
* `Logger`, `LogEntry`: where messages go, and the messages of a log that is kept.
* `Resolver.build`, `Resolver.resolve`.
* `Registry.resolve`: resolving over a registry, without a log.

A zone and a text are built by the same function of the builder, a zone after it was written as a
text. The builder and the log may have any effects that one monad can keep account of; the resolver
has none but theirs, in the order in which it asks and tells.
-/

import Georeference.Builder
import Georeference.Header.Request

namespace Georeference

inductive HeaderCause where
  | unread (fault : HeaderFault)
  | unbuilt (error : BuildError)
deriving DecidableEq, Repr

/-- A header that was refused, as it was supplied. -/
structure HeaderError where
  header : String
  cause : HeaderCause
deriving DecidableEq, Repr

namespace HeaderError

/-- The reason in a few words. -/
def reason (error : HeaderError) : String :=
  match error.cause with
  | .unread fault => fault.message
  | .unbuilt error => error.message

/-- The error of the builder, if the header got that far. -/
def buildError? (error : HeaderError) : Option BuildError :=
  match error.cause with
  | .unread _ => none
  | .unbuilt error => some error

/-- Whether the code of the header was looked up in vain, so that more definitions might help. -/
def isRegistryMiss (error : HeaderError) : Bool :=
  match error.buildError? with
  | some cause => cause.isEpsgError
  | none => false

/-- The wordings of the errors that lie beneath, outermost first. -/
def sources (error : HeaderError) : List String :=
  match error.buildError? with
  | some cause => cause.message :: cause.sources
  | none => []

/-- The wording in one line, if the header has no line feed. -/
def message (error : HeaderError) : String :=
  "Could not parse SRS header '" ++ error.header ++ "': " ++ error.reason ++
    " (accepted formats are EPSG:*****, WGS84 UTM **(N|S) or a valid proj4 string)"

/-- The wording in several lines, for the person who wrote the file. -/
def details (error : HeaderError) : String :=
  "There is a problem with the SRS header of your coordinates/GCP file.\n\nThe line: " ++
    error.header ++ "\n\nIs not valid (" ++ error.reason ++
    "). Projections that are valid include:\n - EPSG:*****\n - WGS84 UTM **(N|S)\n" ++
    " - Any valid proj4 string (for example, +proj=utm +zone=32 +north +ellps=WGS84 +datum=WGS84" ++
    " +units=m +no_defs)\n\nModify your input and try again."

end HeaderError

/-- Receives the messages of a resolver. -/
structure Logger (m : Type → Type) where
  info : String → m Unit
  error : String → m Unit

/-- A message of a log that is kept. -/
inductive LogEntry where
  | info (text : String)
  | error (text : String)
deriving DecidableEq, Repr

/-- The logger that drops every message. -/
def Logger.silent (m : Type → Type) [Pure m] : Logger m where
  info _ := pure ()
  error _ := pure ()

/-- The logger that keeps messages in the order in which they came. -/
def Logger.keeping : Logger (StateM (List LogEntry)) where
  info text := modify (· ++ [.info text])
  error text := modify (· ++ [.error text])

structure Resolver (m : Type → Type) (System : Type) where
  builder : Builder m System
  logger : Logger m

namespace Resolver

variable {m : Type → Type} [Monad m] {System : Type}

/-- Hands a request to the builder. -/
def build (resolver : Resolver m System) : Request → m (Except BuildError System)
  | .utm datum zone hemisphere => resolver.builder.fromProj4 (zoneText datum zone hemisphere)
  | .proj4 text => resolver.builder.fromProj4 text
  | .epsg code => resolver.builder.fromEpsg code

/-- Classifies a header and builds what it asks for. -/
def attempt (resolver : Resolver m System) (header : String) : m (Except HeaderError System) :=
  match classify header with
  | .error fault => pure (.error ⟨header, .unread fault⟩)
  | .ok request => do
    match ← resolver.build request with
    | .error error => pure (.error ⟨header, .unbuilt error⟩)
    | .ok system => pure (.ok system)

/-- Resolves a header: the log hears of it first, and of the failure if there is one. -/
def resolve (resolver : Resolver m System) (header : String) : m (Except HeaderError System) := do
  resolver.logger.info ("Parsing SRS header: " ++ header)
  match ← resolver.attempt header with
  | .error error =>
    resolver.logger.error error.details
    pure (.error error)
  | .ok system => pure (.ok system)

end Resolver

/-- The resolver over a registry that keeps a log. -/
def Registry.loggingResolver (registry : Registry) : Resolver (StateM (List LogEntry)) Crs :=
  ⟨registry.builder _, .keeping⟩

/-- The resolver over a registry that keeps nothing. -/
def Registry.resolver (registry : Registry) : Resolver Id Crs :=
  ⟨registry.builder _, .silent _⟩

def Registry.resolve (registry : Registry) (header : String) : Except HeaderError Crs :=
  (registry.resolver.resolve header).run

end Georeference
