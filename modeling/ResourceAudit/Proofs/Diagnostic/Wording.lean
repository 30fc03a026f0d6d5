import Mathlib.Tactic.Tauto
import ResourceAudit.Diagnostic.Finding
import ResourceAudit.Proofs.Diagnostic.Object

/-!
# Line breaks in diagnostics

The wording of a finding is on one line, and so is everything a line says about where a
diagnostic comes from. What may break a line are the texts that a finding quotes: it is on one
line exactly if all of these are (`oneLine_text_diagnostic`). A JSON line is one line in any
case, and the other two formats print the text as it is, as far as the limit allows
(`oneLine_line_iff`).
-/

namespace ResourceAudit

open Text (OneLine oneLine_ofList oneLine_literal)

namespace Finding

/-- The texts that stand in a diagnostic as they were found. -/
def quoted : Finding → List String
  | rootElementInvalid found => [found]
  | resourceNameMissing => []
  | resourceValueMissing name => [name]
  | resourceValueDuplicated name value => [name, value]
  | resourceCommentDuplicated name comment => [name, comment]
  | unexpectedNode name node => [name, node]
  | resourceNameDuplicated name => [name]
  | fileUnreadable path reason => [path, reason]
  | includeValueCorrupted name => [name]
  | badParameterDeclaration name declaration => [name, declaration]
  | emptyParameterDeclaration name comment => [name, comment]
  | invalidFormatItem name _ reason => [name, reason]
  | valueNotInVariants name value allowed => [name, value, allowed]
  | placeholderCountMismatch name _ _ => [name]
  | placeholderNotUsed name _ => [name]
  | formatItemsMissing name => [name]
  | invalidFormatSpecifier name specifier parameter type => [name, specifier, parameter, type]
  | satelliteValueNotInVariants name value file baseFile allowed =>
      [name, value, file, baseFile, allowed]
  | satelliteTypeMismatch name baseFile file => [name, baseFile, file]
  | parametersDeclarationMissing name => [name]
  | satellitePlaceholderMismatch name baseFile file _ _ => [name, baseFile, file]
  | specifierOnText name specifier parameter value => [name, specifier, parameter, value]
  | satelliteOrphanResource name file baseFile => [name, file, baseFile]

/-- Nothing that is quoted breaks a line. -/
def Whole (f : Finding) : Prop :=
  ∀ text ∈ f.quoted, OneLine text

theorem oneLine_placeholder (index : Nat) : OneLine (placeholder index) := by
  unfold placeholder
  rw [Text.oneLine_append, Text.oneLine_append]
  exact ⟨⟨oneLine_literal (by decide), Text.oneLine_toString index⟩, oneLine_literal (by decide)⟩

theorem oneLine_placeholders (indexes : List Nat) : OneLine (placeholders indexes) := by
  unfold placeholders
  split
  · exact oneLine_literal (by decide)
  · rw [Text.oneLine_intercalate (oneLine_literal (by decide)), List.forall_mem_map]
    exact fun index _ => oneLine_placeholder index

theorem oneLine_toString_string (s : String) : OneLine (toString s) ↔ OneLine s := Iff.rfl

/-- The wording itself breaks no line, so the texts quoted in it decide. -/
theorem oneLine_resource_and_message (f : Finding) :
    OneLine f.resource ∧ OneLine f.message ↔ f.Whole := by
  have hfixed {s : String} (h : OneLine s) : OneLine s = True := eq_true h
  unfold Whole resource message quoted
  cases f
  all_goals
    simp only [Text.oneLine_append, oneLine_toString_string, Text.oneLine_toString,
      oneLine_placeholder, oneLine_placeholders, List.forall_mem_cons, List.not_mem_nil,
      IsEmpty.forall_iff, implies_true, and_true]
    try simp (disch := (apply oneLine_literal; decide)) only [hfixed, true_and, and_true]
  -- What is left lists the same texts in another order, some of them twice.
  all_goals tauto

end Finding

namespace Diagnostic

theorem oneLine_text {d : Diagnostic} :
    OneLine d.text ↔ (∀ resource, d.resource = some resource → OneLine resource) ∧
      OneLine d.message := by
  unfold text
  split
  · rename_i hnone
    simp [hnone]
  · rename_i hempty
    simp [hempty]
  · rename_i resource _ hsome
    have hcolon : OneLine ": " := oneLine_literal (by decide)
    simp [hsome, hcolon]

end Diagnostic

/-- A diagnostic is on one line exactly if nothing breaks a line that it quotes. -/
theorem Finding.oneLine_text_diagnostic (f : Finding) : OneLine f.diagnostic.text ↔ f.Whole := by
  rw [Diagnostic.oneLine_text, ← f.oneLine_resource_and_message]
  have hresource : f.diagnostic.resource = some f.resource := rfl
  have hmessage : f.diagnostic.message = f.message := rfl
  simp [hresource, hmessage]

namespace LineStyle

variable {style : LineStyle} {d : Diagnostic}

/-- Cutting a text breaks no line of it. -/
theorem oneLine_clip {text : String} (h : OneLine text) : OneLine (style.clip text) := by
  unfold clip
  split
  · exact h
  · rename_i limit _
    dsimp only
    split
    · rw [Text.oneLine_append]
      refine ⟨oneLine_ofList fun c hc => h c (Text.mem_of_mem_slice hc), ?_⟩
      exact oneLine_literal (by decide)
    · exact h

theorem oneLine_label (c : Code) : OneLine c.label := by
  unfold Code.label
  rw [Text.oneLine_append]
  exact ⟨oneLine_literal (by decide), Text.oneLine_toString c.number⟩

theorem oneLine_severity (s : Severity) : OneLine s.name := by
  cases s with
  | error => exact oneLine_literal (by decide)
  | warning => exact oneLine_literal (by decide)

theorem oneLine_location {file : Option String} (h : ∀ name, file = some name → OneLine name) :
    OneLine (location file) := by
  unfold location
  split
  · exact Text.oneLine_empty
  · exact Text.oneLine_empty
  · rw [Text.oneLine_append]
    exact ⟨h _ rfl, oneLine_literal (by decide)⟩

/-- The line of a diagnostic for a file is one line if it is JSON, and otherwise exactly if the
part of its text is that the line has room for. -/
theorem oneLine_line_iff (hfile : ∀ name, d.file = some name → OneLine name) :
    OneLine (style.line d) ↔ style.format = .json ∨ OneLine (style.clip d.text) := by
  have hcolon : OneLine ": " := oneLine_literal (by decide)
  have hspace : OneLine " " := oneLine_literal (by decide)
  cases hformat : style.format with
  | buildLog =>
      unfold line
      simp [hformat, hcolon, hspace, oneLine_label, oneLine_severity, oneLine_location hfile]
  | simple =>
      unfold line
      simp [hformat, hcolon, oneLine_label]
  | json => simp [oneLine_line_json hformat d]

end LineStyle

end ResourceAudit
