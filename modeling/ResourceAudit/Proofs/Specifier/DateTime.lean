import ResourceAudit.Proofs.Specifier.Tokens

/-!
# Date and time patterns

The custom patterns of a date are the texts that can be cut into tokens: fraction letters in
runs of at most seven, quoted literals, percent signs before anything but another one, escaped
characters, and every other character for itself (`isPattern_iff_cut`).
-/

namespace ResourceAudit.DateTime

open Pattern (Cut isMark)

/-- The tokens of a date pattern. -/
def dialect : Pattern.Dialect where
  runLimit c := if c = 'f' ∨ c = 'F' then 7 else 0
  afterPercent c := c != '%'
  hasBare := true
  runLimit_mark := by
    intro c hc
    rw [if_neg]
    rintro (rfl | rfl) <;> exact absurd hc (by decide)

theorem isPattern_cons (c : Char) (cs : List Char) :
    isPattern (c :: cs) = (dialect.next? c cs).any isPattern := by
  rw [isPattern.eq_def]
  dsimp only
  rcases Pattern.first_cases dialect c with hletter | hquote | rfl | rfl | ⟨hletter, hmark⟩
  · have hfraction : c = 'f' ∨ c = 'F' := by
      by_contra hnot
      simp [dialect, hnot] at hletter
    have hlimit : dialect.runLimit c = 7 := if_pos hfraction
    rw [if_pos hfraction, Pattern.next?_letter hletter, hlimit]
    by_cases hrun : Pattern.runLength c cs + 1 ≤ 7 <;> simp [hrun, maxFractionDigits]
  · have hfraction : ¬ (c = 'f' ∨ c = 'F') := by
      rintro (rfl | rfl) <;> exact absurd hquote (by decide)
    rw [if_neg hfraction, if_pos hquote, Pattern.next?_quote hquote]
    cases Pattern.afterQuoted c cs <;> rfl
  · rw [Pattern.next?_percent]
    cases cs with
    | nil => rfl
    | cons next after =>
        by_cases hnext : next = '%' <;> simp [dialect, hnext, Pattern.isQuote]
  · rw [Pattern.next?_escape]
    cases cs <;> simp [Pattern.isQuote]
  · have hfraction : ¬ (c = 'f' ∨ c = 'F') := by
      intro h
      simp [dialect, h] at hletter
    rw [Pattern.next?_other hletter hmark, if_neg hfraction]
    simp only [isMark, Bool.or_eq_false_iff, beq_eq_false_iff_ne] at hmark
    simp [hmark, dialect]

/-- **Date patterns are accepted exactly by their grammar.** -/
theorem isPattern_iff_cut (cs : List Char) : isPattern cs = true ↔ Cut dialect cs := by
  apply Pattern.accepts_iff_cut
  · rw [isPattern]
  · exact isPattern_cons

/-! ## Verdicts -/

/-- The standard formats of a kind of date. -/
def standardFormatsOf : Category → List Char
  | .dateTime => standardFormats
  | .dateTimeOffset => offsetStandardFormats
  | _ => []

theorem accepts_iff_cut {standard cs : List Char} (h : 2 ≤ cs.length) :
    accepts standard cs = true ↔ Cut dialect cs := by
  rw [← isPattern_iff_cut]
  unfold accepts
  split
  · simp at h
  · rfl

theorem of_eq_accepts {typeName specifier : String}
    (h : Category.ofTypeName typeName = .dateTime ∨
      Category.ofTypeName typeName = .dateTimeOffset)
    (hne : specifier.toList ≠ []) :
    Verdict.of typeName specifier = .ok (.ofBool
      (accepts (standardFormatsOf (Category.ofTypeName typeName)) specifier.toList)) := by
  obtain ⟨c, cs, hcs⟩ := List.exists_cons_of_ne_nil hne
  unfold Verdict.of
  rw [hcs]
  rcases h with h | h <;> rw [h] <;> rfl

/-- **Date specifiers.** For a type of dates, a specifier of two characters or more is valid if
it can be cut into the tokens of a date pattern, and one of a single character if it is a
standard format of the type. Any other is invalid. -/
theorem date_specifiers_settled {typeName : String}
    (h : Category.ofTypeName typeName = .dateTime ∨
      Category.ofTypeName typeName = .dateTimeOffset) (specifier : String) :
    Verdict.SettledByTokens typeName (standardFormatsOf (Category.ofTypeName typeName)) dialect
      specifier := by
  apply Verdict.settledByTokens_of_accepts (of_eq_accepts h)
  · intro c
    rfl
  · intro cs hlength
    exact accepts_iff_cut hlength

/-- A percent sign before a literal with an escaped quote, and an escaped letter before the
longest run of it. -/
def intricatePattern : String := "%'o\\'clock' \\ffffffff"

theorem date_specifiers_settled_intricate :
    Category.ofTypeName "System.DateTimeOffset?" = .dateTimeOffset ∧
      2 ≤ intricatePattern.length ∧ Cut dialect intricatePattern.toList ∧
      Verdict.of "System.DateTimeOffset?" "U" = .ok .invalid := by
  have htype : Category.ofTypeName "System.DateTimeOffset?" = .dateTimeOffset := by
    decide +kernel
  have hlength : 2 ≤ intricatePattern.length := by decide +kernel
  have hpattern := (date_specifiers_settled (Or.inr htype) intricatePattern).custom hlength
  have hletter := (date_specifiers_settled (Or.inr htype) "U").single 'U' rfl
  refine ⟨htype, hlength, hpattern.1.mp (by decide +kernel), ?_⟩
  rw [hletter.2, htype]
  decide

end ResourceAudit.DateTime
