import ResourceAudit.Diagnostic.Code

/-!
# Diagnostics

One finding about one resource, addressed to a file. Whoever reports a
diagnostic decides its severity and its file.
-/

namespace ResourceAudit

inductive Severity
  | error
  | warning
deriving DecidableEq, Repr

def Severity.name : Severity → String
  | error => "error"
  | warning => "warning"

structure Diagnostic where
  code : Code
  /-- What was found, without the file and the resource. -/
  message : String
  /-- The resource entry, or the kind of node, the finding is about. -/
  resource : Option String
  severity : Severity
  file : Option String
  hint : Option String
deriving DecidableEq, Repr

namespace Diagnostic

/-- A diagnostic with nothing but a code and a message. -/
def plain (code : Code) (message : String) : Diagnostic :=
  ⟨code, message, none, .error, none, none⟩

/-- The message after the name of the resource; an empty name is none. -/
def text (d : Diagnostic) : String :=
  match d.resource with
  | none | some "" => d.message
  | some resource => resource ++ ": " ++ d.message

/-- The diagnostic as reported with a severity for a file. -/
def reported (d : Diagnostic) (severity : Severity) (file : Option String) : Diagnostic :=
  { d with severity := severity, file := file }

def isError (d : Diagnostic) : Bool :=
  d.severity == .error

@[simp]
theorem text_reported (d : Diagnostic) (severity : Severity) (file : Option String) :
    (d.reported severity file).text = d.text := rfl

@[simp]
theorem isError_reported_error (d : Diagnostic) (file : Option String) :
    (d.reported .error file).isError = true := rfl

@[simp]
theorem isError_reported_warning (d : Diagnostic) (file : Option String) :
    (d.reported .warning file).isError = false := rfl

end Diagnostic

end ResourceAudit
