import Mathlib.Data.List.Basic
import ResourceAudit.Proofs.Specifier.Overlong

/-!
# Verdicts on numeric specifiers

What becomes of a numeric specifier depends on its shape, then on its letter, and only then on
its digits: on how many there are before their value counts. `Judged` lists the cases, and
`numeric_specifiers_judged` says that the verdict, or the failure to reach one, is theirs.
-/

namespace ResourceAudit

namespace Text.Decimal

/-- Zeros in front of a digit run do not count. -/
theorem value_zeros_append (n : Nat) (digits : List Char) :
    value (List.replicate n '0' ++ digits) = value digits := by
  have hzeros : value (List.replicate n '0') = 0 := by
    induction n with
    | zero => rfl
    | succ n ih => exact ih
  unfold value at hzeros ⊢
  rw [List.foldl_append, hzeros]

theorem isSome_below?_iff {bound : Nat} {digits : List Char} :
    (below? bound digits).isSome = true ↔ value digits < bound := by
  rw [Option.isSome_iff_exists]
  constructor
  · rintro ⟨n, hn⟩
    obtain ⟨rfl, hlt⟩ := below?_eq_some_iff.mp hn
    exact hlt
  · intro hlt
    exact ⟨_, below?_eq_some_iff.mpr ⟨rfl, hlt⟩⟩

end Text.Decimal

namespace Numeric

/-- A letter followed by nothing but digits, all of them ASCII. -/
structure IsStandard (specifier : List Char) (letter : Char) (digits : List Char) : Prop where
  text : specifier = letter :: digits
  isAlpha : letter.isAlpha = true
  isDigit_of_mem : ∀ c ∈ digits, c.isDigit = true

/-- The letters of the standard formats, as capitals. -/
def formatLetters : List Char := ['B', 'C', 'D', 'E', 'F', 'G', 'N', 'P', 'X']

/-- A letter of a standard format, in either case. -/
def IsFormat (letter : Char) : Prop :=
  ∃ capital ∈ formatLetters, letter = capital ∨ letter = capital.toLower

instance (letter : Char) : Decidable (IsFormat letter) :=
  List.decidableBEx (fun capital => letter = capital ∨ letter = capital.toLower) formatLetters

/-- What becomes of a numeric specifier. -/
inductive Judged (specifier : List Char) : Except Failure Verdict → Prop
  | custom (hcustom : ∀ letter digits, ¬ IsStandard specifier letter digits) :
      Judged specifier (.ok .valid)
  | unknown (letter : Char) (digits : List Char)
      (hstandard : IsStandard specifier letter digits) (hletter : ¬ IsFormat letter) :
      Judged specifier (.ok .invalid)
  | bare (letter : Char) (hstandard : IsStandard specifier letter []) (hletter : IsFormat letter) :
      Judged specifier (.ok .valid)
  | small (letter : Char) (digits : List Char)
      (hstandard : IsStandard specifier letter digits) (hletter : IsFormat letter)
      (hread : digits ≠ [] ∧ digits.length ≤ 4300)
      (hsmall : Text.Decimal.value digits ≤ 999999999) :
      Judged specifier (.ok .valid)
  | large (letter : Char) (digits : List Char)
      (hstandard : IsStandard specifier letter digits) (hletter : IsFormat letter)
      (hread : digits ≠ [] ∧ digits.length ≤ 4300)
      (hlarge : 999999999 < Text.Decimal.value digits) :
      Judged specifier (.ok .invalid)
  /-- Leading zeros count among the digits here. -/
  | unread (letter : Char) (digits : List Char)
      (hstandard : IsStandard specifier letter digits) (hletter : IsFormat letter)
      (hlong : 4300 < digits.length) :
      Judged specifier (.error (.precisionTooLong digits.length))

variable {specifier digits : List Char} {letter : Char}

theorem isStandard_iff :
    IsStandard specifier letter digits ↔ standard? specifier = some (letter, digits) := by
  rw [standard?_eq_some_iff, List.all_eq_true]
  exact ⟨fun ⟨htext, halpha, hdigits⟩ => ⟨htext, halpha, hdigits⟩,
    fun ⟨htext, halpha, hdigits⟩ => ⟨htext, halpha, hdigits⟩⟩

theorem contains_standardFormats_iff :
    standardFormats.contains letter = true ↔ IsFormat letter := by
  rw [List.contains_iff_mem]
  constructor
  · have hall : ∀ c ∈ standardFormats, IsFormat c :=
      List.forall_iff_forall_mem.mp (by decide +kernel)
    exact hall letter
  · have hall : ∀ c ∈ formatLetters, c ∈ standardFormats ∧ c.toLower ∈ standardFormats :=
      List.forall_iff_forall_mem.mp (by decide +kernel)
    rintro ⟨capital, hcapital, heq | heq⟩
    · rw [heq]
      exact (hall capital hcapital).1
    · rw [heq]
      exact (hall capital hcapital).2

/-! ## The check, case by case -/

theorem accepts_custom (h : ∀ letter digits, ¬ IsStandard specifier letter digits) :
    accepts specifier = .ok true := by
  unfold accepts
  cases hstandard : standard? specifier with
  | none => rfl
  | some p => exact absurd (isStandard_iff.mpr hstandard) (h p.1 p.2)

theorem accepts_unknown (hstandard : IsStandard specifier letter digits)
    (hletter : ¬ IsFormat letter) : accepts specifier = .ok false := by
  unfold accepts
  rw [isStandard_iff.mp hstandard]
  exact if_neg (mt contains_standardFormats_iff.mp hletter)

theorem accepts_format (hstandard : IsStandard specifier letter digits)
    (hletter : IsFormat letter) : accepts specifier = acceptsPrecision digits := by
  unfold accepts
  rw [isStandard_iff.mp hstandard]
  exact if_pos (contains_standardFormats_iff.mpr hletter)

theorem acceptsPrecision_read (h : digits.length ≤ 4300) :
    acceptsPrecision digits = .ok (Text.Decimal.below? precisionBound digits).isSome :=
  if_neg (Nat.not_lt.mpr h)

theorem acceptsPrecision_small (h : digits.length ≤ 4300)
    (hsmall : Text.Decimal.value digits ≤ 999999999) : acceptsPrecision digits = .ok true := by
  have hsome := Text.Decimal.isSome_below?_iff.mpr (Nat.lt_succ_of_le hsmall)
  rw [acceptsPrecision_read h]
  exact congrArg Except.ok hsome

theorem acceptsPrecision_large (h : digits.length ≤ 4300)
    (hlarge : 999999999 < Text.Decimal.value digits) : acceptsPrecision digits = .ok false := by
  have hnone : ¬ (Text.Decimal.below? precisionBound digits).isSome = true := by
    rw [Text.Decimal.isSome_below?_iff]
    exact Nat.not_lt.mpr hlarge
  rw [acceptsPrecision_read h]
  exact congrArg Except.ok (Bool.eq_false_iff.mpr hnone)

theorem map_accepts_of_judged {outcome : Except Failure Verdict} (h : Judged specifier outcome) :
    (accepts specifier).map Verdict.ofBool = outcome := by
  cases h with
  | custom hcustom =>
      rw [accepts_custom hcustom]
      rfl
  | unknown letter digits hstandard hletter =>
      rw [accepts_unknown hstandard hletter]
      rfl
  | bare letter hstandard hletter =>
      rw [accepts_format hstandard hletter, acceptsPrecision_small (Nat.zero_le _) (Nat.zero_le _)]
      rfl
  | small letter digits hstandard hletter hread hsmall =>
      rw [accepts_format hstandard hletter, acceptsPrecision_small hread.2 hsmall]
      rfl
  | large letter digits hstandard hletter hread hlarge =>
      rw [accepts_format hstandard hletter, acceptsPrecision_large hread.2 hlarge]
      rfl
  | unread letter digits hstandard hletter hlong =>
      rw [accepts_format hstandard hletter, acceptsPrecision_eq_error_iff.mpr ⟨rfl, hlong⟩]
      rfl

/-- No specifier is left without a case. -/
theorem exists_judged (specifier : List Char) : ∃ outcome, Judged specifier outcome := by
  by_cases hcustom : ∃ letter digits, IsStandard specifier letter digits
  · obtain ⟨letter, digits, hstandard⟩ := hcustom
    by_cases hletter : IsFormat letter
    · rcases Nat.lt_or_ge 4300 digits.length with hlong | hread
      · exact ⟨_, .unread letter digits hstandard hletter hlong⟩
      · by_cases hbare : digits = []
        · subst hbare
          exact ⟨_, .bare letter hstandard hletter⟩
        · rcases Nat.lt_or_ge 999999999 (Text.Decimal.value digits) with hlarge | hsmall
          · exact ⟨_, .large letter digits hstandard hletter ⟨hbare, hread⟩ hlarge⟩
          · exact ⟨_, .small letter digits hstandard hletter ⟨hbare, hread⟩ hsmall⟩
    · exact ⟨_, .unknown letter digits hstandard hletter⟩
  · exact ⟨_, .custom fun letter digits hstandard => hcustom ⟨letter, digits, hstandard⟩⟩

end Numeric

namespace Verdict

theorem of_numeric {typeName specifier : String} (htype : Category.ofTypeName typeName = .numeric)
    (hne : specifier ≠ "") :
    of typeName specifier = (Numeric.accepts specifier.toList).map ofBool := by
  have hcs : specifier.toList ≠ [] := mt String.toList_eq_nil_iff.mp hne
  obtain ⟨c, cs, hcs⟩ := List.exists_cons_of_ne_nil hcs
  unfold of
  rw [hcs, htype]
  rfl

/-- **Numeric specifiers.** For a numeric type a specifier that is not empty has the verdict of
the one case that it belongs to, and there is no verdict on a format whose precision has more
digits than are read. -/
theorem numeric_specifiers_judged {typeName specifier : String}
    (htype : Category.ofTypeName typeName = .numeric) (hne : specifier ≠ "")
    (outcome : Except Failure Verdict) :
    of typeName specifier = outcome ↔ Numeric.Judged specifier.toList outcome := by
  rw [of_numeric htype hne]
  constructor
  · rintro rfl
    obtain ⟨outcome, hjudged⟩ := Numeric.exists_judged specifier.toList
    rw [Numeric.map_accepts_of_judged hjudged]
    exact hjudged
  · exact Numeric.map_accepts_of_judged

/-- A format with zeros and one more digit for its precision. -/
def paddedPrecision (letter : Char) (zeros : Nat) : String :=
  String.ofList (letter :: (List.replicate zeros '0' ++ ['7']))

theorem isStandard_paddedPrecision {letter : Char} (h : letter.isAlpha = true) (zeros : Nat) :
    Numeric.IsStandard (paddedPrecision letter zeros).toList letter
      (List.replicate zeros '0' ++ ['7']) := by
  refine ⟨String.toList_ofList, h, ?_⟩
  intro c hc
  rcases List.mem_append.mp hc with hc | hc
  · rw [List.eq_of_mem_replicate hc]
    decide
  · rw [List.mem_singleton.mp hc]
    decide

/-- Zeros do not make a precision too large, only too long. -/
theorem numeric_specifiers_judged_padded :
    Category.ofTypeName "System . Decimal ?" = .numeric ∧
      paddedPrecision 'x' 4299 ≠ "" ∧ paddedPrecision 'x' 4300 ≠ "" ∧
      of "System . Decimal ?" (paddedPrecision 'x' 4299) = .ok .valid ∧
      of "System . Decimal ?" (paddedPrecision 'x' 4300) = .error (.precisionTooLong 4301) := by
  have htype : Category.ofTypeName "System . Decimal ?" = .numeric := by decide +kernel
  have hformat : Numeric.IsFormat 'x' := by decide
  have hstandard : ∀ zeros, Numeric.IsStandard (paddedPrecision 'x' zeros).toList 'x'
      (List.replicate zeros '0' ++ ['7']) := isStandard_paddedPrecision (by decide)
  have hne : ∀ zeros, paddedPrecision 'x' zeros ≠ "" := by
    intro zeros hempty
    have hcs := (hstandard zeros).text
    rw [hempty] at hcs
    cases hcs
  have hlength : ∀ zeros, (List.replicate zeros '0' ++ ['7']).length = zeros + 1 := by simp
  refine ⟨htype, hne _, hne _, ?_, ?_⟩
  · apply (numeric_specifiers_judged htype (hne 4299) _).mpr
    have hread : (List.replicate 4299 '0' ++ ['7']).length ≤ 4300 := Nat.le_of_eq (hlength 4299)
    refine .small 'x' _ (hstandard 4299) hformat ⟨List.concat_ne_nil _ _, hread⟩ ?_
    rw [Text.Decimal.value_zeros_append]
    decide
  · apply (numeric_specifiers_judged htype (hne 4300) _).mpr
    have hlong : 4300 < (List.replicate 4300 '0' ++ ['7']).length :=
      Nat.le_of_eq (hlength 4300).symm
    have hunread := Numeric.Judged.unread 'x' _ (hstandard 4300) hformat hlong
    rwa [hlength] at hunread

end Verdict

end ResourceAudit
