import ResourceAudit.Check.Event
import ResourceAudit.Check.Satellite
import ResourceAudit.Collection.Keyed
import ResourceAudit.Diagnostic.Sink

/-!
# Checking groups

A resource group is a base file with its satellites. The base entries are
checked first. Only if the base has no error are the satellites verified, each
against the base items alone. A group with any error exposes no items, so no
code is generated from it.

An entry whose name occurred earlier in its file is reported and otherwise left
out.
-/

namespace ResourceAudit

namespace Satellite

/-- Satellites written under their file names: a file written again keeps its
place and takes its last entries. -/
def keyed (satellites : List Satellite) : List Satellite :=
  (Keyed.ofPairs (satellites.map fun s => (s.file, s.entries))).map fun (file, entries) =>
    ⟨file, entries⟩

end Satellite

/-- The events of a group pass and the items it exposes. -/
structure GroupRun where
  items : List Item
  events : List Event
deriving DecidableEq, Repr

namespace GroupRun

def result (run : GroupRun) : Result :=
  Event.result run.events

def isValid (run : GroupRun) : Bool :=
  run.result.isValid

/-- Hands every diagnostic of the run to a sink. -/
def forward (run : GroupRun) (sink : Sink) : Sink :=
  sink.receiveAll (Event.diagnostics run.events)

end GroupRun

namespace Check

/-- A progress line about checking. -/
def progress (level : LogLevel) (message : String) : Event :=
  .log ⟨level, .validation, message⟩

/-- The line about satellites that are not looked at. -/
def skippingLine (baseFile : String) : Event :=
  progress .info s!"Skipping satellites of {baseFile}: base file has errors"

/-- The line that closes the check of a group. -/
def summaryLine (baseFile : String) (items : Nat) (r : Result) : Event :=
  progress .info (s!"Validated {baseFile}: {items} item(s), " ++
    s!"{r.errors.length} error(s), {r.warnings.length} warning(s)")

/-- What one base entry contributes. -/
structure Contribution where
  item : Option Item
  events : List Event
deriving DecidableEq, Repr

/-- Checks a base entry, given whether its name is repeated. -/
def baseEntry (policy : Policy) (file : String) (marked : Entry × Bool) :
    Except Failure Contribution :=
  if marked.2 then
    .ok ⟨none, [.report ((Finding.resourceNameDuplicated marked.1.name).asError (some file))]⟩
  else do
    let outcome ← entry policy (some file) marked.1
    let reports := outcome.diagnostics.map Event.report
    match outcome.item with
    | some item => return ⟨some item, reports⟩
    | none =>
        return ⟨none, reports ++ [progress .debug s!"Rejected {marked.1.name} in {file}"]⟩

/-- Checks all base entries in order. -/
def baseEntries (policy : Policy) (file : String) (entries : List Entry) :
    Except Failure (List Contribution) :=
  (Entry.markRepeats entries).mapM (baseEntry policy file)

/-- Verifies a satellite entry, given whether its name is repeated. -/
def satelliteEntry (ref : Reference) (file : String) (marked : Entry × Bool) :
    Except Failure (List Diagnostic) :=
  if marked.2 then .ok [(Finding.resourceNameDuplicated marked.1.name).asError (some file)]
  else localizedEntry ref file marked.1

/-- Verifies all entries of a satellite in order. -/
def satelliteEntries (ref : Reference) (s : Satellite) : Except Failure (List Diagnostic) :=
  ((Entry.markRepeats s.entries).mapM (satelliteEntry ref s.file)).map List.flatten

/-- A satellite as a group pass meets it: what obtaining it reported, and the
satellite, unless it could not be obtained. -/
structure Arrival where
  events : List Event
  satellite : Option Satellite
deriving DecidableEq, Repr

/-- The events of one satellite. -/
def arrival (ref : Reference) (obtain : Except Failure Arrival) : Except Failure (List Event) := do
  let met ← obtain
  match met.satellite with
  | none => return met.events
  | some s => return met.events ++ (← satelliteEntries ref s).map Event.report

/-- Runs a group whose base file has already reported `opening`. Satellites are
obtained one after another, and not at all if the base has an error. -/
def runGroup (policy : Policy) (baseFile : String) (opening : List Event)
    (entries : List Entry) (satellites : List (Except Failure Arrival)) :
    Except Failure GroupRun := do
  let contributions ← baseEntries policy baseFile entries
  let base := opening ++ (contributions.map Contribution.events).flatten
  if Event.hasError base then
    return ⟨[], base ++ [skippingLine baseFile]⟩
  let items := contributions.filterMap Contribution.item
  let verified ← satellites.mapM (arrival ⟨policy, baseFile, items⟩)
  let events := base ++ verified.flatten
  return ⟨if Event.hasError events then [] else items, events⟩

/-- Closes a run with its summary line. -/
def finish (baseFile : String) (run : GroupRun) : GroupRun :=
  { run with events := run.events ++ [summaryLine baseFile run.items.length run.result] }

/-- Checks a group whose entries have been read. -/
def group (policy : Policy) (baseFile : String) (entries : List Entry)
    (satellites : List Satellite) : Except Failure GroupRun :=
  (runGroup policy baseFile [] entries (satellites.map fun s => .ok ⟨[], some s⟩)).map
    (finish baseFile)

end Check

end ResourceAudit
