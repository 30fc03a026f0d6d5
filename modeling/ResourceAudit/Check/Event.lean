import ResourceAudit.Diagnostic.Result

/-!
# Events

What happens during a run, in order: diagnostics are reported, and progress is
logged. A log line has a level and the name of the part that wrote it.
-/

namespace ResourceAudit

inductive LogLevel
  | debug
  | info
  | warning
deriving DecidableEq, Repr

namespace LogLevel

def name : LogLevel → String
  | debug => "DEBUG"
  | info => "INFO"
  | warning => "WARNING"

def rank : LogLevel → Nat
  | debug => 0
  | info => 1
  | warning => 2

end LogLevel

/-- The part of a run that writes a log line. -/
inductive LogSource
  | cultures
  | discovery
  | reading
  | validation
  | commandLine
deriving DecidableEq, Repr

def LogSource.name : LogSource → String
  | cultures => "resxlint.locale_utils"
  | discovery => "resxlint.loading.groups"
  | reading => "resxlint.loading.resx"
  | validation => "resxlint.validation.resource"
  | commandLine => "resxlint.cli"

structure LogRecord where
  level : LogLevel
  source : LogSource
  message : String
deriving DecidableEq, Repr

def LogRecord.line (r : LogRecord) : String :=
  r.level.name ++ " " ++ r.source.name ++ ": " ++ r.message

inductive Event
  | report (diagnostic : Diagnostic)
  | log (record : LogRecord)
deriving DecidableEq, Repr

namespace Event

def diagnostic? : Event → Option Diagnostic
  | report d => some d
  | log _ => none

def record? : Event → Option LogRecord
  | report _ => none
  | log r => some r

/-- The diagnostics reported in a sequence of events. -/
def diagnostics (events : List Event) : List Diagnostic :=
  events.filterMap diagnostic?

/-- The log lines at or above a level. -/
def logLines (threshold : LogLevel) (events : List Event) : List String :=
  ((events.filterMap record?).filter fun r => threshold.rank ≤ r.level.rank).map LogRecord.line

def result (events : List Event) : Result :=
  .ofDiagnostics (diagnostics events)

def hasError (events : List Event) : Bool :=
  (diagnostics events).any (·.isError)

@[simp]
theorem diagnostics_append (xs ys : List Event) :
    diagnostics (xs ++ ys) = diagnostics xs ++ diagnostics ys :=
  List.filterMap_append

@[simp]
theorem diagnostics_map_report (ds : List Diagnostic) :
    diagnostics (ds.map report) = ds := by
  induction ds with
  | nil => rfl
  | cons d ds ih => simpa [diagnostics, diagnostic?] using ih

end Event

end ResourceAudit
