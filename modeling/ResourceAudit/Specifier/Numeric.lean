import ResourceAudit.Failure
import ResourceAudit.Text.Decimal

/-!
# Numeric specifiers

A letter followed by nothing but digits is a standard format with a precision.
Any other text is a custom pattern, and custom patterns accept everything. A
precision of more digits than can be read as a number is a failure, not a
verdict, but only for a letter that is a format at all.
-/

namespace ResourceAudit.Numeric

/-- Exclusive upper bound of a precision. -/
def precisionBound : Nat := 1000000000

def standardFormats : List Char := "bBcCdDeEfFgGnNpPxX".toList

/-- The letter and the digits of a standard format. -/
def standard? : List Char → Option (Char × List Char)
  | c :: digits => if c.isAlpha && digits.all Char.isDigit then some (c, digits) else none
  | [] => none

/-- Whether a precision is small enough. No digits are no precision. -/
def acceptsPrecision (digits : List Char) : Except Failure Bool :=
  if digits.length > Failure.precisionDigitLimit then .error (.precisionTooLong digits.length)
  else .ok (Text.Decimal.below? precisionBound digits).isSome

/-- Whether a specifier formats a number. -/
def accepts (specifier : List Char) : Except Failure Bool :=
  match standard? specifier with
  | none => .ok true
  | some (letter, digits) =>
      if standardFormats.contains letter then acceptsPrecision digits else .ok false

end ResourceAudit.Numeric
