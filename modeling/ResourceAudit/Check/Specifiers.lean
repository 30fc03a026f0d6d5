import ResourceAudit.Declaration.Parameter
import ResourceAudit.Diagnostic.Finding
import ResourceAudit.Specifier.Verdict

/-!
# Checking specifiers

Every specifier of a value is checked against the type of the parameter that
its index binds. An index beyond the declared parameters is left to the index
checks.
-/

namespace ResourceAudit

namespace Parameter

/-- The parameter an index binds. Negative indexes count from the last
parameter. -/
def bound? (parameters : List Parameter) : Int → Except Failure (Option Parameter)
  | .ofNat index => .ok parameters[index]?
  | .negSucc index =>
      if index < parameters.length then .ok parameters[parameters.length - 1 - index]?
      else .error .parameterOutOfRange

end Parameter

namespace Check

/-- What is to be said about one specifier and the parameter it formats. -/
def specifierFinding (name value specifier : String) (parameter : Parameter) :
    Verdict → Option Finding
  | .valid => none
  | .invalid => some (.invalidFormatSpecifier name specifier parameter.name parameter.type)
  | .ineffective => some (.specifierOnText name specifier parameter.name value)

/-- The finding about one use of a specifier. -/
def specifierUse (name value : String) (parameters : List Parameter) (use : Int × String) :
    Except Failure (Option Finding) := do
  match ← Parameter.bound? parameters use.1 with
  | none => return none
  | some parameter =>
      return specifierFinding name value use.2 parameter (← Verdict.of parameter.type use.2)

/-- The findings about the specifiers of a value, in the order of their uses. -/
def specifiers (name value : String) (parameters : List Parameter) (uses : List (Int × String)) :
    Except Failure (List Finding) :=
  (uses.mapM (specifierUse name value parameters)).map fun findings => findings.filterMap id

/-- Diagnostics of findings with the severity that each has by itself. -/
def reportAll (file : Option String) (findings : List Finding) : List Diagnostic :=
  findings.map fun f => f.diagnostic.reported f.severity file

/-- Whether diagnostics hold no error. -/
def isClean (ds : List Diagnostic) : Bool :=
  ds.all (!·.isError)

end Check

end ResourceAudit
