import ResourceAudit.Check.Group
import ResourceAudit.Project.Discovery
import ResourceAudit.Resource.Document

/-!
# Checking files

Checks the groups of files in a tree. A file that cannot be read is an error of
its own and keeps neither the other files of its group nor the other groups
from being checked. Satellites are read only once the base is known to be
clean.
-/

namespace ResourceAudit.Project

/-- Reads a resource file. -/
def readResource (platform : Platform) (t : FileTree) (p : Path) :
    Except Failure Reading.Outcome :=
  match t.read p with
  | .error error => .ok (.unreadable error.message)
  | .ok bytes => Reading.ofSource platform p.text (.bytes bytes)

/-- How files are read. -/
abbrev Read := Path → Except Failure Reading.Outcome

/-- The events of reading a file, and its entries unless it is unreadable. -/
def arriveBy (read : Read) (p : Path) : Except Failure (List Event × Option (List Entry)) := do
  match ← read p with
  | .unreadable reason =>
      return ([Check.progress .warning s!"Cannot read {p.text}: {reason}",
        .report ((Finding.fileUnreadable p.text reason).asError (some p.text))], none)
  | .read reading =>
      return (Reading.progress p.text reading ++
        reading.result.diagnostics.map Event.report, some reading.entries)

/-- Reads a satellite as a group pass meets it. -/
def arriveSatelliteBy (read : Read) (p : Path) : Except Failure Check.Arrival := do
  let (events, entries) ← arriveBy read p
  return ⟨events, entries.map fun entries => ⟨p.text, entries⟩⟩

/-- Checks one group of files. An unreadable base ends the run of its group
without a summary line. -/
def checkFilesBy (read : Read) (policy : Policy) (base : Path) (satellites : List Path) :
    Except Failure GroupRun := do
  let (opening, entries) ← arriveBy read base
  match entries with
  | none => return ⟨[], opening⟩
  | some entries =>
      let run ← Check.runGroup policy base.text opening entries
        (satellites.map (arriveSatelliteBy read))
      return Check.finish base.text run

section Tree

variable (platform : Platform) (t : FileTree)

def arrive (p : Path) : Except Failure (List Event × Option (List Entry)) :=
  arriveBy (readResource platform t) p

def arriveSatellite (p : Path) : Except Failure Check.Arrival :=
  arriveSatelliteBy (readResource platform t) p

/-- Checks one group of files in a tree. -/
def checkFiles (policy : Policy) (base : Path) (satellites : List Path) :
    Except Failure GroupRun :=
  checkFilesBy (readResource platform t) policy base satellites

end Tree

/-- A group of files with the run of its check. -/
structure CheckedGroup where
  group : FileGroup
  run : GroupRun
deriving DecidableEq, Repr

structure Outcome where
  discovery : List Event
  groups : List CheckedGroup
deriving DecidableEq, Repr

namespace Outcome

/-- Everything that happened, in order. -/
def events (o : Outcome) : List Event :=
  o.discovery ++ o.groups.flatMap fun g => g.run.events

end Outcome

/-- Discovers the groups at paths and checks each of them. -/
def check (platform : Platform) (t : FileTree) (policy : Policy) (paths : List Path) :
    Except Failure Outcome := do
  let found := Discovery.run platform.locales t paths
  let groups ← found.groups.mapM fun group => do
    return ⟨group, ← checkFiles platform t policy group.base group.satellites⟩
  return ⟨found.events, groups⟩

end ResourceAudit.Project
