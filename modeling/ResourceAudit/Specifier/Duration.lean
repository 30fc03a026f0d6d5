import ResourceAudit.Specifier.DateTime

/-!
# Duration specifiers

A single character is a standard format. A custom pattern consists of letter
runs of limited length, quoted literals, `%` before a pattern letter and
escaped characters; a duration has no other literal characters.
-/

namespace ResourceAudit.Duration

def standardFormats : List Char := "ctTgG".toList

/-- The longest run of a pattern letter; none for any other character. -/
def runLimit? (c : Char) : Option Nat :=
  if c = 'd' then some 8
  else if c = 'h' ∨ c = 'm' ∨ c = 's' then some 2
  else if c = 'f' ∨ c = 'F' then some DateTime.maxFractionDigits
  else none

/-- Whether a custom pattern is well formed. -/
def isPattern : List Char → Bool
  | [] => true
  | c :: rest =>
      match runLimit? c with
      | some limit =>
          Pattern.runLength c rest + 1 ≤ limit && isPattern (Pattern.dropRun c rest)
      | none =>
          if Pattern.isQuote c then
            match _hquoted : Pattern.afterQuoted c rest with
            | none => false
            | some after => isPattern after
          else if c = '%' then
            match rest with
            | [] => false
            | next :: after => (runLimit? next).isSome && isPattern (next :: after)
          else if c = '\\' then
            match rest with
            | [] => false
            | _ :: after => isPattern after
          else false
termination_by cs => cs.length
decreasing_by
  · have := Pattern.length_dropRun_le c rest
    rw [List.length_cons]
    omega
  · have := Pattern.length_afterQuoted_lt _hquoted
    rw [List.length_cons]
    omega
  · simp
  · simp only [List.length_cons]
    omega

/-- Whether a specifier formats a duration. -/
def accepts : List Char → Bool
  | [c] => standardFormats.contains c
  | cs => isPattern cs

end ResourceAudit.Duration
