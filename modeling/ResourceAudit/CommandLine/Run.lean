import ResourceAudit.CommandLine.Arguments
import ResourceAudit.Project.Relay

/-!
# Running the command line

Checks the groups at the given paths and prints one line per diagnostic as soon as it
is reported, log lines from the requested level on between them, and the totals at the
end. The exit code tells whether there was an error, or nothing to check. Totals and
exit code come from what has been counted while printing.
-/

namespace ResourceAudit.CommandLine

namespace Settings

def policy (s : Settings) : Policy :=
  if s.lenient then .lenient else .strict

def style (s : Settings) : LineStyle :=
  ⟨s.format, s.limit⟩

/-- The lowest level that is printed. -/
def threshold (s : Settings) : LogLevel :=
  match s.verbosity with
  | 0 => .warning
  | 1 => .info
  | _ => .debug

end Settings

/-- How a run ends. -/
inductive Outcome
  /-- Only the usage was shown. -/
  | usage (exitCode : Nat)
  | finished (exitCode : Nat) (lines : List String)
deriving DecidableEq, Repr

/-- The line an event prints, if any. -/
def lineOf (s : Settings) : Event → Option String
  | .report d => some (s.style.line d)
  | .log record => if s.threshold.rank ≤ record.level.rank then some record.line else none

/-- What has been printed, and the diagnostics that have been counted on the way. -/
structure Printer where
  errors : Nat
  warnings : Nat
  lines : List String
deriving DecidableEq, Repr

namespace Printer

def start : Printer := ⟨0, 0, []⟩

/-- Counts a diagnostic by its severity. -/
def count (p : Printer) (d : Diagnostic) : Printer :=
  if d.isError then { p with errors := p.errors + 1 }
  else { p with warnings := p.warnings + 1 }

/-- Prints the line of an event, and counts it if it is a diagnostic. -/
def notice (s : Settings) (p : Printer) (e : Event) : Printer :=
  let printed := { p with lines := p.lines ++ (lineOf s e).toList }
  match e with
  | .report d => printed.count d
  | .log _ => printed

end Printer

def nothingFound : String := "resxlint: no .resx files found"

/-- The log line after the last group. -/
def closingLine (groups : Nat) : Event :=
  .log ⟨.debug, .commandLine, s!"Validated {groups} resource group(s)"⟩

/-- The last line of a run over some groups. -/
def totals (errors warnings : Nat) : String :=
  s!"resxlint completed with {errors} errors and {warnings} warnings."

/-- Runs with settings. -/
def runWith (platform : Platform) (t : FileTree) (s : Settings) : Except Failure Outcome := do
  let (results, printer) ← Project.projectInto (Printer.notice s) platform t s.policy
    (s.paths.map Path.ofString) .start
  if results.isEmpty then return .finished 2 (printer.lines ++ [nothingFound])
  let printer := printer.notice s (closingLine results.length)
  return .finished (if 0 < printer.errors then 1 else 0)
    (printer.lines ++ [totals printer.errors printer.warnings])

/-- Runs the command line in a tree. -/
def run (platform : Platform) (t : FileTree) (arguments : List String) :
    Except Failure Outcome :=
  match Settings.parse arguments with
  | .ok settings => runWith platform t settings
  | .error .help => .ok (.usage 0)
  | .error .mistake => .ok (.usage 2)

end ResourceAudit.CommandLine
