import ResourceAudit.Check.Group

/-!
# Checking groups for a caller

A caller may own a sink that is to receive the diagnostics of many groups. A pass
over a group then reports every diagnostic as soon as it is found, first to a
collector of its own and then to that sink. How the pass goes on and what it
returns is decided by its own collector: the sink may already hold the errors
of other groups.
-/

namespace ResourceAudit

/-- Where the diagnostics of one pass go. -/
structure Outlet where
  /-- What this pass has reported. -/
  collected : Result
  /-- The sink of the caller, if there is one. -/
  sink : Option Sink
deriving DecidableEq, Repr

namespace Outlet

/-- The outlet a pass begins with. -/
def opened (sink : Option Sink) : Outlet := ⟨.empty, sink⟩

/-- Collects a diagnostic and forwards it. -/
def receive (o : Outlet) (d : Diagnostic) : Outlet where
  collected := o.collected.merge (.ofDiagnostics [d])
  sink := o.sink.map (·.receive d)

def receiveAll (o : Outlet) (ds : List Diagnostic) : Outlet :=
  ds.foldl receive o

/-- The errors of this pass, whatever the sink held before. -/
def errorCount (o : Outlet) : Nat :=
  o.collected.errors.length

end Outlet

/-- A step of a pass, which reports to an outlet and may fail. -/
abbrev Pass := StateT Outlet (Except Failure)

namespace Pass

def report (ds : List Diagnostic) : Pass Unit :=
  modify (·.receiveAll ds)

def hasError : Pass Bool := do
  return 0 < (← get).errorCount

end Pass

/-- A group to be checked. -/
structure GroupInput where
  policy : Policy
  baseFile : String
  entries : List Entry
  satellites : List Satellite
deriving DecidableEq, Repr

/-- What a caller learns about a group. -/
structure GroupResult where
  items : List Item
  result : Result
deriving DecidableEq, Repr

namespace Check

/-- Checks a base entry and reports what is found. -/
def passBaseEntry (policy : Policy) (file : String) (marked : Entry × Bool) :
    Pass (Option Item) := do
  let contribution ← baseEntry policy file marked
  Pass.report (Event.diagnostics contribution.events)
  return contribution.item

/-- Verifies a satellite entry and reports what is found. -/
def passSatelliteEntry (ref : Reference) (file : String) (marked : Entry × Bool) :
    Pass Unit := do
  Pass.report (← satelliteEntry ref file marked)

def passSatellite (ref : Reference) (s : Satellite) : Pass Unit :=
  (Entry.markRepeats s.entries).forM (passSatelliteEntry ref s.file)

/-- Checks a group step by step. No satellite is looked at, and no item exposed,
once this pass has reported an error. -/
def passGroup (g : GroupInput) : Pass (List Item) := do
  let checked ← (Entry.markRepeats g.entries).mapM (passBaseEntry g.policy g.baseFile)
  if ← Pass.hasError then return []
  let items := checked.filterMap id
  g.satellites.forM (passSatellite ⟨g.policy, g.baseFile, items⟩)
  if ← Pass.hasError then return []
  return items

/-- Checks a group for a caller, and returns the sink as the check leaves it. -/
def groupInto (sink : Option Sink) (g : GroupInput) :
    Except Failure (GroupResult × Option Sink) := do
  let (items, outlet) ← (passGroup g).run (.opened sink)
  return (⟨items, outlet.collected⟩, outlet.sink)

/-- Checks groups one after another for the same caller. -/
def groupsInto (sink : Option Sink) : List GroupInput →
    Except Failure (List GroupResult × Option Sink)
  | [] => .ok ([], sink)
  | g :: rest => do
      let (result, sink) ← groupInto sink g
      let (results, sink) ← groupsInto sink rest
      return (result :: results, sink)

end Check

end ResourceAudit
