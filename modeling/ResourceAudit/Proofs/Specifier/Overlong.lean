import ResourceAudit.Specifier.Verdict

/-!
# Precisions that are too long to be read

The only specifiers without a verdict: a numeric standard format with more precision digits
than are read as a number (`Verdict.of_eq_error_iff`). For every other specifier there is a
verdict, whatever the type.
-/

namespace ResourceAudit

namespace Numeric

/-- A standard format with `n` precision digits, which are too many. -/
structure Overlong (specifier : List Char) (n : Nat) : Prop where
  format : ∃ letter digits, specifier = letter :: digits ∧ letter ∈ standardFormats ∧
    digits.all Char.isDigit = true ∧ digits.length = n
  tooMany : Failure.precisionDigitLimit < n

theorem isAlpha_of_mem_standardFormats {c : Char} (h : c ∈ standardFormats) :
    c.isAlpha = true := by
  have hall : standardFormats.all Char.isAlpha = true := by decide +kernel
  exact List.all_eq_true.mp hall c h

theorem acceptsPrecision_eq_error_iff {digits : List Char} {f : Failure} :
    acceptsPrecision digits = .error f ↔
      f = .precisionTooLong digits.length ∧ Failure.precisionDigitLimit < digits.length := by
  unfold acceptsPrecision
  by_cases hlong : digits.length > Failure.precisionDigitLimit
  · rw [if_pos hlong]
    constructor
    · intro h
      cases h
      exact ⟨rfl, hlong⟩
    · rintro ⟨rfl, -⟩
      rfl
  · rw [if_neg hlong]
    constructor
    · intro h
      cases h
    · rintro ⟨-, hlong'⟩
      exact absurd hlong' hlong

theorem standard?_eq_some_iff {specifier digits : List Char} {letter : Char} :
    standard? specifier = some (letter, digits) ↔
      specifier = letter :: digits ∧ letter.isAlpha = true ∧ digits.all Char.isDigit = true := by
  cases specifier with
  | nil => simp [standard?]
  | cons c cs =>
      rw [standard?]
      by_cases h : (c.isAlpha && cs.all Char.isDigit) = true
      · rw [if_pos h]
        rw [Bool.and_eq_true] at h
        constructor
        · intro heq
          cases heq
          exact ⟨rfl, h⟩
        · rintro ⟨heq, -⟩
          cases heq
          rfl
      · rw [if_neg h]
        constructor
        · intro heq
          cases heq
        · rintro ⟨heq, hstandard⟩
          cases heq
          exact absurd (Bool.and_eq_true _ _ ▸ hstandard) h

/-- Reading a numeric specifier fails for no other reason. -/
theorem accepts_eq_error_iff {specifier : List Char} {f : Failure} :
    accepts specifier = .error f ↔ ∃ n, f = .precisionTooLong n ∧ Overlong specifier n := by
  unfold accepts
  constructor
  · intro h
    split at h
    · cases h
    · rename_i letter digits hstandard
      obtain ⟨hspecifier, -, hdigits⟩ := standard?_eq_some_iff.mp hstandard
      split at h
      · rename_i hletter
        obtain ⟨rfl, hlong⟩ := acceptsPrecision_eq_error_iff.mp h
        have hmem : letter ∈ standardFormats := List.contains_iff_mem.mp hletter
        exact ⟨digits.length, rfl, ⟨letter, digits, hspecifier, hmem, hdigits, rfl⟩, hlong⟩
      · cases h
  · rintro ⟨n, rfl, ⟨letter, digits, rfl, hmem, hdigits, rfl⟩, hlong⟩
    have halpha := isAlpha_of_mem_standardFormats hmem
    have hstandard : standard? (letter :: digits) = some (letter, digits) :=
      standard?_eq_some_iff.mpr ⟨rfl, halpha, hdigits⟩
    rw [hstandard]
    dsimp only
    rw [if_pos (List.contains_iff_mem.mpr hmem)]
    exact acceptsPrecision_eq_error_iff.mpr ⟨rfl, hlong⟩

end Numeric

namespace Verdict

/-- A specifier of a numeric type whose precision is too long. -/
structure Overlong (typeName specifier : String) (n : Nat) : Prop where
  numeric : Category.ofTypeName typeName = .numeric
  precision : Numeric.Overlong specifier.toList n

/-- **Where there is no verdict.** Only an overlong precision of a numeric type has none. -/
theorem of_eq_error_iff {typeName specifier : String} {f : Failure} :
    Verdict.of typeName specifier = .error f ↔
      ∃ n, f = .precisionTooLong n ∧ Overlong typeName specifier n := by
  unfold Verdict.of
  cases hcs : specifier.toList with
  | nil =>
      constructor
      · intro h
        cases h
      · rintro ⟨n, -, -, ⟨letter, digits, hformat, -⟩, -⟩
        rw [hcs] at hformat
        cases hformat
  | cons c cs =>
      dsimp only
      cases hcategory : Category.ofTypeName typeName with
      | numeric =>
          have hmap : ofCategory .numeric (c :: cs) = .error f ↔
              Numeric.accepts (c :: cs) = .error f := by
            unfold ofCategory
            cases Numeric.accepts (c :: cs) <;> simp [Except.map]
          rw [hmap, Numeric.accepts_eq_error_iff]
          constructor
          · rintro ⟨n, rfl, h⟩
            exact ⟨n, rfl, hcategory, hcs ▸ h⟩
          · rintro ⟨n, rfl, -, h⟩
            exact ⟨n, rfl, hcs ▸ h⟩
      -- The other categories have a verdict on every specifier.
      | text | dateTime | dateTimeOffset | guid | duration | enumLike =>
          constructor
          · intro h
            cases h
          · rintro ⟨n, -, hnumeric, -⟩
            rw [hcategory] at hnumeric
            cases hnumeric

end Verdict

end ResourceAudit
