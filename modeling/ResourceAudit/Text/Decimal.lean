/-!
# Digit runs

The value of a run of ASCII digits, and the same value below a bound. The
bounded form stops accumulating once the bound is reached, so a run of any
length costs no more than a number of the bound's size; `below?_eq_some_iff`
says that nothing is lost by it.
-/

namespace ResourceAudit.Text.Decimal

def digitValue (c : Char) : Nat :=
  c.toNat - '0'.toNat

/-- The number a digit run denotes; leading zeros are free. -/
def value (digits : List Char) : Nat :=
  digits.foldl (fun n c => 10 * n + digitValue c) 0

/-- The value read so far, left alone once it has reached the bound. -/
def accumulate (bound : Nat) (n : Nat) (digits : List Char) : Nat :=
  digits.foldl (fun n c => if n < bound then 10 * n + digitValue c else n) n

/-- The number a digit run denotes, if it lies below the bound. -/
def below? (bound : Nat) (digits : List Char) : Option Nat :=
  let n := accumulate bound 0 digits
  if n < bound then some n else none

theorem le_foldl_value (n : Nat) (digits : List Char) :
    n ≤ digits.foldl (fun n c => 10 * n + digitValue c) n := by
  induction digits generalizing n with
  | nil => exact Nat.le_refl n
  | cons c digits ih => exact Nat.le_trans (by omega) (ih (10 * n + digitValue c))

theorem accumulate_of_le {bound n : Nat} (h : bound ≤ n) (digits : List Char) :
    accumulate bound n digits = n := by
  induction digits with
  | nil => rfl
  | cons c digits ih =>
      rw [accumulate, List.foldl_cons, if_neg (by omega)]
      exact ih

/-- Stopping at the bound and reading the whole run agree on which runs lie
below the bound and on their value. -/
theorem accumulate_lt_iff (bound n : Nat) (digits : List Char) (m : Nat) :
    (accumulate bound n digits = m ∧ m < bound) ↔
      (digits.foldl (fun n c => 10 * n + digitValue c) n = m ∧ m < bound) := by
  induction digits generalizing n with
  | nil => rfl
  | cons c digits ih =>
      rw [accumulate, List.foldl_cons, List.foldl_cons]
      by_cases h : n < bound
      · rw [if_pos h]
        exact ih (10 * n + digitValue c)
      · rw [if_neg h]
        have hstuck :
            List.foldl (fun n c => if n < bound then 10 * n + digitValue c else n) n digits = n :=
          accumulate_of_le (by omega) digits
        have hgrow := le_foldl_value (10 * n + digitValue c) digits
        rw [hstuck]
        constructor <;> rintro ⟨rfl, hm⟩ <;> omega

theorem below?_eq_some_iff {bound m : Nat} {digits : List Char} :
    below? bound digits = some m ↔ value digits = m ∧ m < bound := by
  have h := accumulate_lt_iff bound 0 digits m
  simp only [below?, value]
  split
  · rename_i hlt
    rw [Option.some.injEq]
    constructor
    · rintro rfl
      exact h.1 ⟨rfl, hlt⟩
    · intro hv
      exact (h.2 hv).1
  · rename_i hge
    simp only [reduceCtorEq, false_iff]
    intro hv
    obtain ⟨rfl, hm⟩ := h.2 hv
    exact hge hm

end ResourceAudit.Text.Decimal
