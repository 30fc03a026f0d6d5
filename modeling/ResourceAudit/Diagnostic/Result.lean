import ResourceAudit.Diagnostic.Basic

/-!
# Results

The diagnostics of a pass, errors and warnings apart, each in the order in
which they were reported. Warnings do not make a result invalid.
-/

namespace ResourceAudit

structure Result where
  errors : List Diagnostic
  warnings : List Diagnostic
deriving DecidableEq, Repr

namespace Result

def empty : Result := ⟨[], []⟩

def isValid (r : Result) : Bool :=
  r.errors.isEmpty

/-- Errors followed by warnings. -/
def diagnostics (r : Result) : List Diagnostic :=
  r.errors ++ r.warnings

/-- The result of reporting diagnostics in order. -/
def ofDiagnostics (ds : List Diagnostic) : Result :=
  ⟨ds.filter (·.isError), ds.filter (!·.isError)⟩

/-- Both results, the order within each kept. -/
def merge (r s : Result) : Result :=
  ⟨r.errors ++ s.errors, r.warnings ++ s.warnings⟩

/-- The diagnostics addressed to one file. -/
def forFile (file : Option String) (r : Result) : Result :=
  ⟨r.errors.filter (·.file == file), r.warnings.filter (·.file == file)⟩

@[simp]
theorem ofDiagnostics_nil : ofDiagnostics [] = empty := rfl

@[simp]
theorem ofDiagnostics_append (ds es : List Diagnostic) :
    ofDiagnostics (ds ++ es) = (ofDiagnostics ds).merge (ofDiagnostics es) := by
  simp [ofDiagnostics, merge]

@[simp]
theorem merge_empty (r : Result) : r.merge empty = r := by
  simp [merge, empty]

@[simp]
theorem empty_merge (r : Result) : empty.merge r = r := by
  simp [merge, empty]

theorem merge_assoc (r s t : Result) : (r.merge s).merge t = r.merge (s.merge t) := by
  simp [merge]

/-- Every diagnostic stands on its own side. -/
structure Sorted (r : Result) : Prop where
  errors : ∀ d ∈ r.errors, d.isError = true
  warnings : ∀ d ∈ r.warnings, d.isError = false

theorem sorted_ofDiagnostics (ds : List Diagnostic) : (ofDiagnostics ds).Sorted := by
  constructor
  · intro d hd
    exact (List.mem_filter.mp hd).2
  · intro d hd
    simpa using (List.mem_filter.mp hd).2

/-- Reporting the errors of a sorted result and then its warnings leads to the result. -/
theorem Sorted.ofDiagnostics_eq {r : Result} (h : r.Sorted) : ofDiagnostics r.diagnostics = r := by
  have herrors : ofDiagnostics r.errors = ⟨r.errors, []⟩ := by
    unfold ofDiagnostics
    rw [List.filter_eq_self.mpr h.errors, List.filter_eq_nil_iff.mpr]
    intro d hd
    rw [h.errors d hd]
    decide
  have hwarnings : ofDiagnostics r.warnings = ⟨[], r.warnings⟩ := by
    unfold ofDiagnostics
    rw [List.filter_eq_nil_iff.mpr, List.filter_eq_self.mpr]
    · intro d hd
      rw [h.warnings d hd]
      rfl
    · intro d hd
      rw [h.warnings d hd]
      decide
  rw [diagnostics, ofDiagnostics_append, herrors, hwarnings]
  simp [merge]

end Result

end ResourceAudit
