/-
**Resolving a list of headers.**

Each header gives a report or a complaint, whatever the others give, and the exit code says whether
all of them were resolved.

* `HeaderOutcome`, `headerOutcome`: what one header gives.
* `separator`: the blank line before a report.
* `Outcome`, `batch`: what a run gives, and the outcome of a list of headers.

In text form a blank line stands before the report of every header but the first of the list. It is
the place of the header in the list that counts and not whether a report stands before it, so each
header has its outcome by itself and by its place. A hint about registry files follows the complaint
on a header that is marked as a registry miss, unless such a file was given. Behind all complaints
the rejected headers are counted, if there are any; and a list without headers is a failure of its
own.
-/

import Georeference.Report

namespace Georeference.CommandLine

/-- What a run gives: its exit code, its standard output and its complaints, each a text of one or
more lines. -/
structure Outcome where
  exit : Nat
  output : String
  complaints : List String
deriving DecidableEq, Repr

def Outcome.failure (message : String) : Outcome :=
  ⟨1, "", ["Error: " ++ message]⟩

structure HeaderOutcome where
  output : String
  complaints : List String
  rejected : Bool
deriving DecidableEq, Repr

/-- How headers are resolved and shown. -/
structure BatchSettings where
  registry : Registry
  format : ReportFormat
  registryGiven : Bool
deriving DecidableEq, Repr

/-- The complaints about a header; a registry file is suggested where it might help and none was
given. -/
def complaintsAbout (settings : BatchSettings) (error : HeaderError) : List String :=
  ("error: " ++ error.message) ::
    if error.isRegistryMiss && !settings.registryGiven then
      ["hint: extra EPSG codes can be loaded with --registry"]
    else []

/-- The blank line before a report in text form. -/
def separator (settings : BatchSettings) (index : Nat) : String :=
  if settings.format = .text && 0 < index then "\n" else ""

def headerOutcome (settings : BatchSettings) (index : Nat) (header : String) : HeaderOutcome :=
  match settings.registry.resolve header with
  | .ok crs =>
    { output :=
        separator settings index ++ (Report.ofCrs header crs).render settings.format ++ "\n"
      complaints := []
      rejected := false }
  | .error error => ⟨"", complaintsAbout settings error, true⟩

def headerOutcomes (settings : BatchSettings) (headers : List String) : List HeaderOutcome :=
  headers.zipIdx.map fun (header, index) => headerOutcome settings index header

/-- The last complaint, if headers were rejected. -/
def verdict (rejected total : Nat) : List String :=
  if rejected = 0 then []
  else ["Error: " ++ toString rejected ++ " of " ++ toString total ++
    " headers could not be parsed"]

def batch (settings : BatchSettings) (headers : List String) : Outcome :=
  if headers.isEmpty then .failure "No SRS header given"
  else
    let outcomes := headerOutcomes settings headers
    let rejected := outcomes.countP HeaderOutcome.rejected
    { exit := if rejected = 0 then 0 else 1
      output := String.join (outcomes.map HeaderOutcome.output)
      complaints := outcomes.flatMap HeaderOutcome.complaints ++ verdict rejected headers.length }

end Georeference.CommandLine
