import ResourceAudit.Check.Outlet
import ResourceAudit.Project.Files

/-!
# Checking files for a listener

A check reports while it is under way. What a group reports is collected for that
group, and every event is passed on to a listener who hears of all groups. A file is
read when its turn comes: what is wrong with it as a document is reported right
before what is wrong with its entries, and an error of the base in either respect
keeps the satellites from being read. How a check goes on is decided by what its own
group has collected.
-/

namespace ResourceAudit

/-- Where the events of a group go. -/
structure Relay (σ : Type) where
  /-- What the group has reported. -/
  collected : Result
  /-- What the listener has made of all it heard. -/
  listener : σ

namespace Relay

variable {σ : Type}

/-- The relay that a group begins with. -/
def opened (listener : σ) : Relay σ := ⟨.empty, listener⟩

/-- Collects an event and passes it on. -/
def receive (notice : σ → Event → σ) (r : Relay σ) (e : Event) : Relay σ where
  collected := r.collected.merge (Event.result [e])
  listener := notice r.listener e

end Relay

/-- A step of a check that is under way. -/
abbrev Watch (σ : Type) := StateT (Relay σ) (Except Failure)

namespace Watch

variable {σ : Type}

def tell (notice : σ → Event → σ) (events : List Event) : Watch σ Unit :=
  modify fun r => events.foldl (Relay.receive notice) r

/-- Whether the group has reported an error so far. -/
def hasError : Watch σ Bool := do
  return !(← get).collected.isValid

end Watch

namespace Project

variable {σ : Type} (notice : σ → Event → σ) (read : Read)

/-- Reads a file and reports what is wrong with it as a document. -/
def watchRead (p : Path) : Watch σ (Option (List Entry)) := do
  let (events, entries) ← arriveBy read p
  Watch.tell notice events
  return entries

def watchBaseEntry (policy : Policy) (file : String) (marked : Entry × Bool) :
    Watch σ (Option Item) := do
  let contribution ← Check.baseEntry policy file marked
  Watch.tell notice contribution.events
  return contribution.item

def watchSatelliteEntry (ref : Check.Reference) (file : String) (marked : Entry × Bool) :
    Watch σ Unit := do
  let found ← Check.satelliteEntry ref file marked
  Watch.tell notice (found.map Event.report)

/-- Reads a satellite and verifies its entries. An unreadable one is passed over. -/
def watchSatellite (ref : Check.Reference) (p : Path) : Watch σ Unit := do
  match ← watchRead notice read p with
  | none => return ()
  | some entries =>
      (Entry.markRepeats entries).forM (watchSatelliteEntry notice ref p.text)

/-- Checks the entries of a base and then the satellites. No satellite is met, and no
item exposed, once the group has reported an error. -/
def watchEntries (policy : Policy) (base : Path) (entries : List Entry)
    (satellites : List Path) : Watch σ (List Item) := do
  let checked ← (Entry.markRepeats entries).mapM (watchBaseEntry notice policy base.text)
  if ← Watch.hasError then
    Watch.tell notice [Check.skippingLine base.text]
    return []
  let items := checked.filterMap id
  satellites.forM (watchSatellite notice read ⟨policy, base.text, items⟩)
  if ← Watch.hasError then return []
  return items

/-- Checks a group whose base has been read, and closes with the summary line. -/
def watchToEnd (policy : Policy) (base : Path) (entries : List Entry)
    (satellites : List Path) : Watch σ (List Item) := do
  let items ← watchEntries notice read policy base entries satellites
  let relay ← get
  Watch.tell notice [Check.summaryLine base.text items.length relay.collected]
  return items

/-- Checks one group of files. If the base is unreadable, nothing else is done. -/
def watchFiles (policy : Policy) (base : Path) (satellites : List Path) :
    Watch σ (List Item) := do
  match ← watchRead notice read base with
  | none => return []
  | some entries => watchToEnd notice read policy base entries satellites

/-- Checks a group of files for a listener. -/
def filesInto (policy : Policy) (base : Path) (satellites : List Path) (listener : σ) :
    Except Failure (GroupResult × σ) := do
  let (items, relay) ← (watchFiles notice read policy base satellites).run (.opened listener)
  return (⟨items, relay.collected⟩, relay.listener)

/-- Checks one group of a project for the listener of the project. -/
def fileGroupInto (policy : Policy) (g : FileGroup) :
    StateT σ (Except Failure) (FileGroup × GroupResult) := fun listener => do
  let (result, listener) ← filesInto notice read policy g.base g.satellites listener
  return ((g, result), listener)

/-- Discovers the groups at paths and checks them one after another for a listener. -/
def projectInto (platform : Platform) (t : FileTree) (policy : Policy) (paths : List Path)
    (listener : σ) : Except Failure (List (FileGroup × GroupResult) × σ) :=
  let found := Discovery.run platform.locales t paths
  (found.groups.mapM (fileGroupInto notice (readResource platform t) policy)).run
    (found.events.foldl notice listener)

end Project

end ResourceAudit
