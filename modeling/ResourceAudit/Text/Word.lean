import ResourceAudit.Text.WordRanges

/-!
# Word characters

Which characters may stand in an identifier, and which of them are decimal
digits of some script.
-/

namespace ResourceAudit.Text

/-- Membership of a code point in a list of closed ranges. -/
def inRanges (ranges : List (Nat × Nat)) (n : Nat) : Bool :=
  ranges.any fun (low, high) => low ≤ n && n ≤ high

/-- A decimal digit of any script. -/
def isDecimal (c : Char) : Bool :=
  c.isDigit || inRanges decimalRanges c.toNat

/-- A letter, a character with a numeric value, or `_`. -/
def isWord (c : Char) : Bool :=
  c.isAlphanum || c == '_' || inRanges wordRanges c.toNat

/-- The value of a decimal digit. The digits of a script are adjacent and
begin with zero, so the distance from the start of its range decides. -/
def decimalValue? (c : Char) : Option Nat :=
  if c.isDigit then some (c.toNat - 48) else
    (decimalRanges.find? fun (low, high) => low ≤ c.toNat && c.toNat ≤ high).map
      fun (low, _) => (c.toNat - low) % 10

end ResourceAudit.Text
