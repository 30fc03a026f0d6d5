import ResourceAudit.Specifier.Category
import ResourceAudit.Specifier.DateTime
import ResourceAudit.Specifier.Duration
import ResourceAudit.Specifier.Numeric

/-!
# Verdicts on format specifiers

Whether the text after the colon of a format item formats a value of a declared
type. Each category has a small grammar of its own, so a verdict depends on the
type name and the specifier alone.
-/

namespace ResourceAudit

inductive Verdict
  | valid
  | invalid
  /-- Accepted, but without effect: text is never formatted. -/
  | ineffective
deriving DecidableEq, Repr

namespace Guid

def formats : List Char := "nNdDbBpPxX".toList

/-- Whether a specifier is one of the single-letter layouts. -/
def accepts : List Char → Bool
  | [c] => formats.contains c
  | _ => false

end Guid

namespace Enumeration

def formats : List Char := "GgFfDdXx".toList

/-- Whether a specifier is one of the single-letter enumeration formats. -/
def accepts : List Char → Bool
  | [c] => formats.contains c
  | _ => false

end Enumeration

namespace Verdict

def ofBool (accepted : Bool) : Verdict :=
  if accepted then valid else invalid

/-- The verdict on a specifier for a category. -/
def ofCategory (category : Category) (specifier : List Char) : Except Failure Verdict :=
  match category with
  | .text => .ok ineffective
  | .dateTime => .ok (ofBool (DateTime.accepts DateTime.standardFormats specifier))
  | .dateTimeOffset => .ok (ofBool (DateTime.accepts DateTime.offsetStandardFormats specifier))
  | .numeric => (Numeric.accepts specifier).map ofBool
  | .guid => .ok (ofBool (Guid.accepts specifier))
  | .duration => .ok (ofBool (Duration.accepts specifier))
  | .enumLike => .ok (ofBool (Enumeration.accepts specifier))

/-- The verdict on a specifier for a declared type. An empty specifier is never
valid. -/
def of (typeName specifier : String) : Except Failure Verdict :=
  match specifier.toList with
  | [] => .ok invalid
  | cs => ofCategory (Category.ofTypeName typeName) cs

end Verdict

end ResourceAudit
