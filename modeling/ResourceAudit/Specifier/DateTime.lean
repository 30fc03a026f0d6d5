import ResourceAudit.Specifier.Pattern

/-!
# Date and time specifiers

A single character is a standard format. Anything longer is a custom pattern:
fraction letters in runs of at most seven, quoted literals, `%` before a
character other than itself, escaped characters, and any other character,
which is a pattern letter or stands for itself.
-/

namespace ResourceAudit.DateTime

/-- Longest run of `f` or `F`. -/
def maxFractionDigits : Nat := 7

def standardFormats : List Char := "dDfFgGmMoOrRstTuUyY".toList

/-- The universal format `U` has no meaning for a value with an offset. -/
def offsetStandardFormats : List Char := standardFormats.filter (· ≠ 'U')

/-- Whether a custom pattern is well formed. -/
def isPattern : List Char → Bool
  | [] => true
  | c :: rest =>
      if c = 'f' ∨ c = 'F' then
        Pattern.runLength c rest + 1 ≤ maxFractionDigits && isPattern (Pattern.dropRun c rest)
      else if Pattern.isQuote c then
        match _hquoted : Pattern.afterQuoted c rest with
        | none => false
        | some after => isPattern after
      else if c = '%' then
        match rest with
        | [] => false
        | next :: after => next ≠ '%' && isPattern (next :: after)
      else if c = '\\' then
        match rest with
        | [] => false
        | _ :: after => isPattern after
      else isPattern rest
termination_by cs => cs.length
decreasing_by
  · have := Pattern.length_dropRun_le c rest
    rw [List.length_cons]
    omega
  · have := Pattern.length_afterQuoted_lt _hquoted
    rw [List.length_cons]
    omega
  · simp
  · simp only [List.length_cons]
    omega
  · simp

/-- Whether a specifier formats a date, given the standard formats. -/
def accepts (standard : List Char) : List Char → Bool
  | [c] => standard.contains c
  | cs => isPattern cs

end ResourceAudit.DateTime
