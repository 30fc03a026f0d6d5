import ResourceAudit.Proofs.Specifier.Tokens

/-!
# Duration patterns

The custom patterns of a duration are the texts that can be cut into tokens: runs of a pattern
letter, each letter with a limit of its own, quoted literals, percent signs before a pattern
letter, and escaped characters. No other character stands for itself (`isPattern_iff_cut`).
-/

namespace ResourceAudit.Duration

open Pattern (Cut isMark)

/-- The tokens of a duration pattern. -/
def dialect : Pattern.Dialect where
  runLimit c :=
    if c = 'd' then 8
    else if c = 'h' ∨ c = 'm' ∨ c = 's' then 2
    else if c = 'f' ∨ c = 'F' then 7
    else 0
  afterPercent c := ['d', 'h', 'm', 's', 'f', 'F'].contains c
  hasBare := false
  runLimit_mark := by
    intro c hc
    have hmark : c = '\'' ∨ c = '"' ∨ c = '%' ∨ c = '\\' := by
      simpa [isMark, Pattern.isQuote, or_assoc] using hc
    rcases hmark with rfl | rfl | rfl | rfl <;> rfl

/-- The letters that are checked for a limit are those that have one. -/
theorem runLimit?_eq (c : Char) :
    runLimit? c = if 0 < dialect.runLimit c then some (dialect.runLimit c) else none := by
  unfold runLimit? dialect DateTime.maxFractionDigits
  by_cases hday : c = 'd'
  · simp [hday]
  · by_cases hclock : c = 'h' ∨ c = 'm' ∨ c = 's'
    · simp [hday, hclock]
    · by_cases hfraction : c = 'f' ∨ c = 'F' <;> simp [hday, hclock, hfraction]

/-- A percent sign may stand before the letters that have runs. -/
theorem isSome_runLimit? (c : Char) : (runLimit? c).isSome = dialect.afterPercent c := by
  unfold runLimit? dialect
  by_cases hday : c = 'd'
  · simp [hday]
  · by_cases hclock : c = 'h' ∨ c = 'm' ∨ c = 's'
    · rcases hclock with rfl | rfl | rfl <;> rfl
    · by_cases hfraction : c = 'f' ∨ c = 'F'
      · rcases hfraction with rfl | rfl <;> rfl
      · simp only [not_or] at hclock hfraction
        simp [hday, hclock, hfraction]

theorem isPattern_cons (c : Char) (cs : List Char) :
    isPattern (c :: cs) = (dialect.next? c cs).any isPattern := by
  rw [isPattern.eq_def]
  dsimp only
  rw [runLimit?_eq]
  rcases Pattern.first_cases dialect c with hletter | hquote | rfl | rfl | ⟨hletter, hmark⟩
  · rw [if_pos hletter, Pattern.next?_letter hletter]
    by_cases hrun : Pattern.runLength c cs + 1 ≤ dialect.runLimit c <;> simp [hrun]
  · have hletter : dialect.runLimit c = 0 := dialect.runLimit_mark c (by simp [isMark, hquote])
    rw [if_neg (by omega), Pattern.next?_quote hquote]
    dsimp only
    rw [if_pos hquote]
    cases Pattern.afterQuoted c cs <;> rfl
  · rw [Pattern.next?_percent]
    cases cs with
    | nil => rfl
    | cons next after =>
        show ((runLimit? next).isSome && isPattern (next :: after)) = _
        rw [isSome_runLimit?]
        by_cases hnext : dialect.afterPercent next = true <;> simp [hnext]
  · rw [Pattern.next?_escape]
    cases cs <;> rfl
  · rw [if_neg (by omega), Pattern.next?_other hletter hmark]
    simp only [isMark, Bool.or_eq_false_iff, beq_eq_false_iff_ne] at hmark
    simp [hmark, dialect]

/-- **Duration patterns are accepted exactly by their grammar.** -/
theorem isPattern_iff_cut (cs : List Char) : isPattern cs = true ↔ Cut dialect cs := by
  apply Pattern.accepts_iff_cut
  · rw [isPattern]
  · exact isPattern_cons

/-! ## Verdicts -/

theorem accepts_iff_cut {cs : List Char} (h : 2 ≤ cs.length) :
    accepts cs = true ↔ Cut dialect cs := by
  rw [← isPattern_iff_cut]
  unfold accepts
  split
  · simp at h
  · rfl

theorem of_eq_accepts {typeName specifier : String}
    (h : Category.ofTypeName typeName = .duration) (hne : specifier.toList ≠ []) :
    Verdict.of typeName specifier = .ok (.ofBool (accepts specifier.toList)) := by
  obtain ⟨c, cs, hcs⟩ := List.exists_cons_of_ne_nil hne
  unfold Verdict.of
  rw [hcs, h]
  rfl

/-- **Duration specifiers.** For a type of durations, a specifier of two characters or more is
valid if it can be cut into the tokens of a duration pattern, and one of a single character if
it is a standard format. Any other is invalid. -/
theorem duration_specifiers_settled {typeName : String}
    (h : Category.ofTypeName typeName = .duration) (specifier : String) :
    Verdict.SettledByTokens typeName ['c', 't', 'T', 'g', 'G'] dialect specifier := by
  apply Verdict.settledByTokens_of_accepts (of_eq_accepts h)
  · intro c
    rfl
  · intro cs hlength
    exact accepts_iff_cut hlength

/-- Longest runs side by side, a literal that holds the other quote, and an escaped letter that
would make a run too long. -/
def elapsedPattern : String := "%ddddddddhh\\:mm'\"m'\\ss"

/-- A literal character must be quoted or escaped. -/
theorem duration_specifiers_settled_elapsed :
    Category.ofTypeName "TimeSpan" = .duration ∧ Cut dialect elapsedPattern.toList ∧
      ¬ Cut dialect "hh:mm".toList := by
  have htype : Category.ofTypeName "TimeSpan" = .duration := by decide +kernel
  have helapsed := (duration_specifiers_settled htype elapsedPattern).custom (by decide +kernel)
  have hbare := (duration_specifiers_settled htype "hh:mm").custom (by decide +kernel)
  exact ⟨htype, helapsed.1.mp (by decide +kernel), hbare.2.mp (by decide +kernel)⟩

end ResourceAudit.Duration
