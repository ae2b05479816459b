/-
**Recording what a resolver does.**

A resolver is recorded by writing down what it tells its log and what its builder is asked and
answers, in the order in which that happens, whatever the builder and the log do besides. A builder
that builds nothing and answers with the call itself, or always with one error, shows by its
transcript what a resolver asks of any builder and says to any log.

* `BuilderCall`, `Event`, `Transcript`: what is written down.
* `Builder.recorded`, `Logger.recorded`, `Resolver.recorded`: the same with a transcript.
* `Builder.echoing`, `Resolver.recording`: the resolver whose builder answers with its calls, with a
  transcript.
-/

import Georeference.Header.Resolver

namespace Georeference

inductive BuilderCall where
  | fromProj4 (text : String)
  | fromEpsg (text : String)
deriving DecidableEq, Repr

/-- Something that a resolver does: it tells its log, or it asks its builder and gets an answer. -/
inductive Event (System : Type) where
  | told (entry : LogEntry)
  | asked (call : BuilderCall) (answer : Except BuildError System)

/-- What a resolver did so far, in the order in which it happened. -/
abbrev Transcript (System : Type) := List (Event System)

namespace Transcript

variable {System : Type}

def blank : Transcript System := []

/-- The calls of the builder. -/
def calls (transcript : Transcript System) : List BuilderCall :=
  transcript.filterMap fun
    | .told _ => none
    | .asked call _ => some call

/-- The messages to the log. -/
def log (transcript : Transcript System) : List LogEntry :=
  transcript.filterMap fun
    | .told entry => some entry
    | .asked _ _ => none

end Transcript

section Recorded

variable {m : Type → Type} [Monad m] {System : Type}

/-- Lets a call be answered, and writes it down with its answer. -/
def BuilderCall.recorded (call : BuilderCall) (answering : m (Except BuildError System)) :
    StateT (Transcript System) m (Except BuildError System) := do
  let answer ← answering
  modify (· ++ [.asked call answer])
  pure answer

/-- The builder with a record of its calls. -/
def Builder.recorded (builder : Builder m System) :
    Builder (StateT (Transcript System) m) System where
  fromProj4 text := (BuilderCall.fromProj4 text).recorded (builder.fromProj4 text)
  fromEpsg text := (BuilderCall.fromEpsg text).recorded (builder.fromEpsg text)

/-- The logger with a record of its messages. -/
def Logger.recorded (logger : Logger m) : Logger (StateT (Transcript System) m) where
  info text := do
    logger.info text
    modify (· ++ [.told (.info text)])
  error text := do
    logger.error text
    modify (· ++ [.told (.error text)])

/-- The resolver with a record of all that it does. -/
def Resolver.recorded (resolver : Resolver m System) :
    Resolver (StateT (Transcript System) m) System :=
  ⟨resolver.builder.recorded, resolver.logger.recorded⟩

end Recorded

/-- Answers a call with the call itself, or with an error if one is given. -/
def BuilderCall.echo (refusal : Option BuildError) (call : BuilderCall) :
    Except BuildError BuilderCall :=
  match refusal with
  | some error => .error error
  | none => .ok call

/-- The builder that answers with its calls. -/
def Builder.echoing (refusal : Option BuildError) : Builder Id BuilderCall where
  fromProj4 text := pure (BuilderCall.echo refusal (.fromProj4 text))
  fromEpsg text := pure (BuilderCall.echo refusal (.fromEpsg text))

/-- The resolver that writes down what it asks and says. -/
def Resolver.recording (refusal : Option BuildError) :
    Resolver (StateM (Transcript BuilderCall)) BuilderCall :=
  Resolver.recorded ⟨.echoing refusal, .silent Id⟩

end Georeference
