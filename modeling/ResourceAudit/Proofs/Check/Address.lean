import ResourceAudit.Proofs.Check.Entry
import ResourceAudit.Proofs.Check.Satellite

/-!
# Addresses

The file that a base entry is checked for only addresses what is reported about it: the
check itself does not depend on it (`entry_addressed`). All that is reported about a
satellite entry is addressed to the satellite (`file_of_localizedEntry`).
-/

namespace ResourceAudit

namespace Diagnostic

/-- The same diagnostic for another file. -/
def addressed (file : Option String) (d : Diagnostic) : Diagnostic :=
  { d with file := file }

@[simp]
theorem file_addressed (file : Option String) (d : Diagnostic) : (d.addressed file).file = file :=
  rfl

@[simp]
theorem isError_addressed (file : Option String) (d : Diagnostic) :
    (d.addressed file).isError = d.isError := rfl

end Diagnostic

namespace Check

/-- Findings are reported for one file as for another, up to the address. -/
theorem reportAll_addressed (file other : Option String) (found : List Finding) :
    reportAll file found = (reportAll other found).map (Diagnostic.addressed file) := by
  unfold reportAll
  rw [List.map_map]
  rfl

theorem isClean_addressed (file : Option String) (ds : List Diagnostic) :
    isClean (ds.map (Diagnostic.addressed file)) = isClean ds := by
  unfold isClean
  rw [List.all_map]
  simp only [Function.comp_def, Diagnostic.isError_addressed]

theorem isClean_reportAll (file other : Option String) (found : List Finding) :
    isClean (reportAll file found) = isClean (reportAll other found) := by
  rw [reportAll_addressed file other, isClean_addressed]

/-- The same outcome, reported for another file. -/
def EntryOutcome.addressed (file : Option String) (out : EntryOutcome) : EntryOutcome :=
  ⟨out.item, out.diagnostics.map (Diagnostic.addressed file)⟩

/-! ## Base entries -/

section Base

variable (policy : Policy) (file other : Option String) (e : Entry)

theorem plainEntry_addressed (scan : Format.Scan) :
    plainEntry policy file e scan = (plainEntry policy other e scan).addressed file := by
  by_cases hunused : scan.indexes = []
  · rw [plainEntry_unused hunused, plainEntry_unused hunused]
    rfl
  · rw [plainEntry_used hunused, plainEntry_used hunused]
    rfl

theorem parameterizedEntry_addressed (scan : Format.Scan) (parameters : List Parameter) :
    parameterizedEntry file e scan parameters =
      (parameterizedEntry other e scan parameters).map (EntryOutcome.addressed file) := by
  cases hindex : indexFinding? e.name scan parameters.length with
  | some f =>
      rw [parameterizedEntry_found hindex, parameterizedEntry_found hindex]
      rfl
  | none =>
      rw [parameterizedEntry_exact hindex, parameterizedEntry_exact hindex]
      cases specifiers e.name e.value parameters (signedUses scan) with
      | error failure => rfl
      | ok found =>
          unfold Except.map EntryOutcome.addressed
          dsimp only
          rw [isClean_reportAll file other, reportAll_addressed file other]

theorem formatEntry_addressed (declared : Option (List Parameter)) :
    formatEntry policy file e declared =
      (formatEntry policy other e declared).map (EntryOutcome.addressed file) := by
  cases hscan : (Format.scan e.value).error with
  | some error =>
      rw [formatEntry_malformed hscan, formatEntry_malformed hscan]
      rfl
  | none =>
      cases declared with
      | none =>
          rw [formatEntry_none hscan, formatEntry_none hscan,
            plainEntry_addressed policy file other]
          rfl
      | some parameters =>
          rw [formatEntry_some hscan, formatEntry_some hscan]
          exact parameterizedEntry_addressed file other e _ parameters

theorem stringEntry_addressed :
    stringEntry policy file e =
      (stringEntry policy other e).map (EntryOutcome.addressed file) := by
  unfold stringEntry
  cases Mode.ofComment e.comment with
  | error refusal => rfl
  | ok mode =>
      cases mode with
      | suppressed => rfl
      | enumeration variants =>
          dsimp only
          split <;> rfl
      | plain => exact formatEntry_addressed policy file other e none
      | parameterized parameters => exact formatEntry_addressed policy file other e _

theorem includeEntry_addressed :
    includeEntry file e = (includeEntry other e).addressed file := by
  unfold includeEntry
  cases Inclusion.parse? e.value <;> rfl

/-- The check of a base entry depends on the file only in what it addresses. -/
theorem entry_addressed :
    entry policy file e = (entry policy other e).map (EntryOutcome.addressed file) := by
  unfold entry
  by_cases hinclude : e.isInclude = true
  · rw [if_pos hinclude, if_pos hinclude, includeEntry_addressed file other]
    rfl
  · rw [if_neg hinclude, if_neg hinclude]
    exact stringEntry_addressed policy file other e

end Base

/-! ## Satellite entries -/

section Localized

variable {ref : Reference} {file : String} {e : Entry} {item : Item} {ds : List Diagnostic}
  {d : Diagnostic}

theorem file_of_mem_reportAll {address : Option String} {found : List Finding}
    (hd : d ∈ reportAll address found) : d.file = address := by
  obtain ⟨f, -, rfl⟩ := List.mem_map.mp hd
  rfl

theorem file_of_localizedFormat (h : localizedFormat ref file e item = .ok ds) (hd : d ∈ ds) :
    d.file = some file := by
  cases hscan : (Format.scan e.value).error with
  | some error =>
      rw [localizedFormat_malformed hscan] at h
      cases h
      rw [List.mem_singleton.mp hd]
      rfl
  | none =>
      rw [localizedFormat_scanned hscan] at h
      obtain ⟨found, -, rfl⟩ := Attempt.map_eq_ok.mp h
      rcases List.mem_append.mp hd with hd | hd
      · split at hd
        · exact absurd hd List.not_mem_nil
        · rw [List.mem_singleton.mp hd]
          rfl
      · exact file_of_mem_reportAll hd

theorem file_of_localizedValue (h : localizedValue ref file e item = .ok ds) (hd : d ∈ ds) :
    d.file = some file := by
  unfold localizedValue at h
  split at h
  · cases h
    exact absurd hd List.not_mem_nil
  · cases h
    split at hd
    · exact absurd hd List.not_mem_nil
    · rw [List.mem_singleton.mp hd]
      rfl
  · exact file_of_localizedFormat h hd
  · exact file_of_localizedFormat h hd

theorem file_of_localizedItem (h : localizedItem ref file e item = .ok ds) (hd : d ∈ ds) :
    d.file = some file := by
  unfold localizedItem at h
  split at h
  · cases h
    rw [List.mem_singleton.mp hd]
    rfl
  · split at h
    · cases h
      rw [List.mem_singleton.mp hd]
      rfl
    · split at h
      · cases h
        exact absurd hd List.not_mem_nil
      · exact file_of_localizedValue h hd

theorem file_of_localizedEntry (h : localizedEntry ref file e = .ok ds) (hd : d ∈ ds) :
    d.file = some file := by
  unfold localizedEntry at h
  split at h
  · cases h
    rw [List.mem_singleton.mp hd]
    rfl
  · exact file_of_localizedItem h hd

end Localized

end Check

end ResourceAudit
