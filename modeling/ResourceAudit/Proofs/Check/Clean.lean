import ResourceAudit.Check.Group

/-!
# Clean diagnostics

Diagnostics are clean if none of them is an error. A result is valid, and a run goes
on to its satellites, exactly if what was reported is clean.
-/

namespace ResourceAudit

namespace Check

theorem isClean_iff {ds : List Diagnostic} :
    isClean ds = true ↔ ∀ d ∈ ds, d.isError = false := by
  unfold isClean
  rw [List.all_eq_true]
  exact forall₂_congr fun d _ => by rw [Bool.not_eq_true']

@[simp]
theorem isClean_append (ds es : List Diagnostic) :
    isClean (ds ++ es) = (isClean ds && isClean es) :=
  List.all_append

theorem isClean_flatten {dss : List (List Diagnostic)} :
    isClean dss.flatten = true ↔ ∀ ds ∈ dss, isClean ds = true := by
  unfold isClean
  rw [List.all_flatten, List.all_eq_true]

@[simp]
theorem isClean_asError (f : Finding) (file : Option String) :
    isClean [f.asError file] = false := rfl

end Check

namespace Event

@[simp]
theorem hasError_append (xs ys : List Event) :
    hasError (xs ++ ys) = (hasError xs || hasError ys) := by
  unfold hasError
  rw [diagnostics_append, List.any_append]

theorem hasError_eq_not_isClean (events : List Event) :
    hasError events = !Check.isClean (diagnostics events) := by
  unfold hasError Check.isClean
  rw [List.not_all_eq_any_not]
  simp only [Bool.not_not]

@[simp]
theorem result_nil : result [] = .empty := rfl

@[simp]
theorem result_append (xs ys : List Event) : result (xs ++ ys) = (result xs).merge (result ys) := by
  unfold result
  rw [diagnostics_append, Result.ofDiagnostics_append]

theorem diagnostics_flatten (es : List (List Event)) :
    diagnostics es.flatten = (es.map diagnostics).flatten := by
  induction es with
  | nil => rfl
  | cons e es ih => rw [List.flatten_cons, diagnostics_append, ih, List.map_cons, List.flatten_cons]

end Event

namespace Result

theorem isValid_ofDiagnostics (ds : List Diagnostic) :
    (ofDiagnostics ds).isValid = Check.isClean ds := by
  unfold isValid ofDiagnostics Check.isClean
  induction ds with
  | nil => rfl
  | cons d ds ih => cases h : d.isError <;> simp [h, ih]

/-- All diagnostics of a clean list are warnings. -/
theorem warnings_of_isClean {ds : List Diagnostic} (h : Check.isClean ds = true) :
    (ofDiagnostics ds).warnings = ds := by
  unfold ofDiagnostics
  refine List.filter_eq_self.mpr ?_
  intro d hd
  rw [Check.isClean_iff.mp h d hd]
  rfl

theorem ofDiagnostics_of_isClean {ds : List Diagnostic} (h : Check.isClean ds = true) :
    ofDiagnostics ds = ⟨[], ds⟩ := by
  have herrors : (ofDiagnostics ds).errors = [] :=
    List.isEmpty_iff.mp ((isValid_ofDiagnostics ds).trans h)
  calc ofDiagnostics ds = ⟨(ofDiagnostics ds).errors, (ofDiagnostics ds).warnings⟩ := rfl
    _ = ⟨[], ds⟩ := by rw [herrors, warnings_of_isClean h]

end Result

/-- What has been reported is valid unless there was an error. -/
theorem Event.isValid_result (events : List Event) :
    (result events).isValid = !hasError events := by
  rw [hasError_eq_not_isClean, Bool.not_not]
  exact Result.isValid_ofDiagnostics _

namespace GroupRun

theorem isValid_eq_isClean (run : GroupRun) :
    run.isValid = Check.isClean (Event.diagnostics run.events) :=
  Result.isValid_ofDiagnostics _

/-- The warnings of a valid run are all that it reported. -/
theorem warnings_of_isValid {run : GroupRun} (h : run.isValid = true) :
    run.result.warnings = Event.diagnostics run.events := by
  rw [isValid_eq_isClean] at h
  exact Result.warnings_of_isClean h

end GroupRun

end ResourceAudit
