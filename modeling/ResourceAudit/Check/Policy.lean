import ResourceAudit.Diagnostic.Finding

/-!
# Policies

Two findings are gated by a policy: placeholders without a declaration, and a
localized value whose placeholders differ. They are errors under the strict policy
and warnings under the lenient one, which serves projects that are still being
annotated.
-/

namespace ResourceAudit

inductive Policy
  | strict
  | lenient
deriving DecidableEq, Repr

/-- The severity of a gated finding. -/
def Policy.severity : Policy → Severity
  | strict => .error
  | lenient => .warning

/-- A gated finding as the policy reports it. -/
def Finding.gated (f : Finding) (policy : Policy) (file : Option String) : Diagnostic :=
  f.diagnostic.reported policy.severity file

end ResourceAudit
