import ResourceAudit.Diagnostic.Result

/-!
# Sinks

Where diagnostics go. A collector keeps them, a call log keeps what a listener
is told about each: its severity, its file and its text.
-/

namespace ResourceAudit

/-- One call of a listener. -/
structure Call where
  severity : Severity
  file : Option String
  text : String
deriving DecidableEq, Repr

inductive Sink
  | collector (collected : Result)
  | listener (calls : List Call)
deriving DecidableEq, Repr

namespace Sink

/-- Hands a diagnostic to the sink. -/
def receive (s : Sink) (d : Diagnostic) : Sink :=
  match s with
  | collector collected => collector (collected.merge (.ofDiagnostics [d]))
  | listener calls => listener (calls ++ [⟨d.severity, d.file, d.text⟩])

def receiveAll (s : Sink) (ds : List Diagnostic) : Sink :=
  ds.foldl receive s

def errorCount : Sink → Nat
  | collector collected => collected.errors.length
  | listener calls => calls.countP (·.severity == .error)

def warningCount : Sink → Nat
  | collector collected => collected.warnings.length
  | listener calls => calls.countP (·.severity == .warning)

/-- What a collector has collected. A listener collects nothing. -/
def result : Sink → Result
  | collector collected => collected
  | listener _ => .empty

def calls : Sink → List Call
  | collector _ => []
  | listener calls => calls

@[simp]
theorem receiveAll_nil (s : Sink) : s.receiveAll [] = s := rfl

theorem receiveAll_append (s : Sink) (ds es : List Diagnostic) :
    s.receiveAll (ds ++ es) = (s.receiveAll ds).receiveAll es :=
  List.foldl_append

theorem receiveAll_collector (r : Result) (ds : List Diagnostic) :
    (collector r).receiveAll ds = collector (r.merge (.ofDiagnostics ds)) := by
  induction ds generalizing r with
  | nil => simp
  | cons d ds ih =>
      rw [receiveAll, List.foldl_cons, receive, ← receiveAll, ih, Result.merge_assoc,
        ← Result.ofDiagnostics_append, List.singleton_append]

end Sink

end ResourceAudit
