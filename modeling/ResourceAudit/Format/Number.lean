import ResourceAudit.Text.Decimal

/-!
# Numbers in format items

Placeholder indexes and alignment widths: a run of ASCII digits without sign,
whose value lies below a fixed bound.
-/

namespace ResourceAudit.Format

/-- Exclusive upper bound of placeholder indexes and alignment widths. -/
def numberBound : Nat := 1000000

/-- The number at the start of a text and the text after its digits. -/
def readNumber (cs : List Char) : Option (Nat × List Char) :=
  match cs.takeWhile Char.isDigit with
  | [] => none
  | digits => (Text.Decimal.below? numberBound digits).map (·, cs.dropWhile Char.isDigit)

theorem length_readNumber_le {cs rest : List Char} {n : Nat}
    (h : readNumber cs = some (n, rest)) : rest.length ≤ cs.length := by
  rw [readNumber] at h
  split at h
  · cases h
  · obtain ⟨m, -, hm⟩ := Option.map_eq_some_iff.1 h
    cases hm
    exact (List.dropWhile_suffix _).length_le

end ResourceAudit.Format
