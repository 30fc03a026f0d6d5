/-!
# Culture names

Decides whether a part of a file name is a culture name. The part must look
like one, and a locale must be known for it. Which locales are known is not for
this project to say: it is a predicate on their identifiers.
-/

namespace ResourceAudit.Culture

/-- Whether there is a locale for an identifier. -/
abbrev Locales := String → Bool

/-- Hyphens are underscores in locale identifiers. -/
def normalize (segment : String) : String :=
  String.ofList (segment.toList.map fun c => if c = '-' then '_' else c)

/-- The shape of a culture name: a letter, then up to nineteen letters and
hyphens, at least one. -/
def hasShape (segment : String) : Bool :=
  match segment.toList with
  | [] => false
  | first :: rest =>
      first.isAlpha && 1 ≤ rest.length && rest.length ≤ 19 &&
        rest.all fun c => c.isAlpha || c == '-'

/-- Whether there is a locale for a segment. -/
def hasLocale (locales : Locales) (segment : String) : Bool :=
  locales (normalize segment)

/-- Whether a segment is a culture name. -/
def isName (locales : Locales) (segment : String) : Bool :=
  hasShape segment && hasLocale locales segment

end ResourceAudit.Culture
