import ResourceAudit.Check.Steps
import ResourceAudit.Diagnostic.Sink
import ResourceAudit.Proofs.Check.Entry
import ResourceAudit.Proofs.Collection.Reports

/-!
# Entries checked step by step

Whatever receives the diagnostics, the steps of a check report what the check finds, in the
order in which it lists them, and return its item (`reports_entryInto`). A receiver is therefore
only ever handed something; it decides nothing.
-/

namespace ResourceAudit.Check

variable {σ : Type} (receive : σ → Diagnostic → σ) (file : Option String)

/-! ## Specifiers -/

/-- A flag that is lowered by every step that finds an error. -/
theorem foldl_isClean {α : Type} (found : α → List Diagnostic) (xs : List α) (valid : Bool) :
    xs.foldl (fun flag x => flag && isClean (found x)) valid =
      (valid && isClean (xs.map found).flatten) := by
  induction xs generalizing valid with
  | nil => exact (Bool.and_true valid).symm
  | cons x xs ih =>
      rw [List.foldl_cons, ih, List.map_cons, List.flatten_cons, isClean_append, Bool.and_assoc]

theorem reportAll_filterMap (findings : List (Option Finding)) :
    reportAll file (findings.filterMap id) =
      (findings.map fun finding => reportAll file finding.toList).flatten := by
  induction findings with
  | nil => rfl
  | cons finding findings ih =>
      rw [List.map_cons, List.flatten_cons, ← ih]
      cases finding <;> rfl

/-- A verdict lowers the flag exactly if what it reports is an error. -/
theorem run_verdictInto (name value specifier : String) (parameter : Parameter) (valid : Bool)
    (verdict : Verdict) (s : σ) :
    (verdictInto receive file name value specifier parameter valid verdict).run s =
      .ok (valid && isClean (reportAll file
          (specifierFinding name value specifier parameter verdict).toList),
        (reportAll file
          (specifierFinding name value specifier parameter verdict).toList).foldl receive s) := by
  cases verdict <;> cases valid <;> rfl

theorem reports_specifierInto (name value : String) (parameters : List Parameter)
    (valid : Bool) (use : Int × String) :
    Reports receive (specifierInto receive file name value parameters valid use)
      (specifierUse name value parameters use)
      (fun finding => valid && isClean (reportAll file finding.toList))
      fun finding => reportAll file finding.toList := by
  intro s
  unfold specifierInto specifierUse
  cases Parameter.bound? parameters use.1 with
  | error failure => rfl
  | ok bound =>
      cases bound with
      | none => exact congrArg (fun flag => Except.ok (flag, s)) (Bool.and_true valid).symm
      | some parameter =>
          show (StateT.lift (Verdict.of parameter.type use.2) >>=
              verdictInto receive file name value use.2 parameter valid).run s =
            (Verdict.of parameter.type use.2 >>= fun verdict =>
              pure (specifierFinding name value use.2 parameter verdict)).map _
          cases Verdict.of parameter.type use.2 with
          | error failure => rfl
          | ok verdict =>
              exact run_verdictInto receive file name value use.2 parameter valid verdict s

/-- The loop goes on after an invalid specifier, and returns whether all were valid. -/
theorem reports_specifiersInto (name value : String) (parameters : List Parameter)
    (uses : List (Int × String)) :
    Reports receive (specifiersInto receive file name value parameters uses)
      (specifiers name value parameters uses) (fun found => isClean (reportAll file found))
      (reportAll file) := by
  intro s
  unfold specifiersInto specifiers
  rw [Reports.foldlM (reports_specifierInto receive file name value parameters)]
  cases uses.mapM (specifierUse name value parameters) with
  | error failure => rfl
  | ok findings =>
      dsimp only [Except.map]
      rw [foldl_isClean, Bool.true_and, reportAll_filterMap]

/-! ## Entries -/

/-- A check that reports one finding and yields nothing. -/
theorem reports_rejected (found : Finding) :
    Reports receive
      (report receive (found.asError file) >>= fun _ => (pure none : Steps σ (Option Item)))
      (.ok (.rejected file found)) EntryOutcome.item EntryOutcome.diagnostics :=
  fun _ => rfl

theorem reports_accepted (item : Item) :
    Reports receive (pure (some item) : Steps σ (Option Item)) (.ok (.accepted item))
      EntryOutcome.item EntryOutcome.diagnostics :=
  fun _ => rfl

variable (policy : Policy) (e : Entry)

theorem reports_plainInto (scan : Format.Scan) :
    Reports receive (plainInto receive file policy e scan)
      (.ok (plainEntry policy file e scan)) EntryOutcome.item EntryOutcome.diagnostics := by
  unfold plainInto plainEntry
  by_cases hcount : scan.count = 0
  · simp only [if_pos hcount]
    exact reports_accepted receive _
  · simp only [if_neg hcount]
    cases policy <;> exact fun _ => rfl

theorem reports_parameterizedInto (scan : Format.Scan) (parameters : List Parameter) :
    Reports receive (parameterizedInto receive file e scan parameters)
      (parameterizedEntry file e scan parameters) EntryOutcome.item EntryOutcome.diagnostics := by
  cases hindex : indexFinding? e.name scan parameters.length with
  | some found =>
      intro s
      rw [parameterizedEntry_found hindex]
      unfold parameterizedInto indexesInto
      rw [hindex]
      rfl
  | none =>
      have hsteps : parameterizedInto receive file e scan parameters =
          specifiersInto receive file e.name e.value parameters (signedUses scan) >>= fun valid =>
            if valid = true then
              pure (some ⟨e.name, e.value, stringType, .parameterized parameters, scan.indexes⟩)
            else pure none := by
        unfold parameterizedInto indexesInto
        rw [hindex]
        rfl
      intro s
      rw [parameterizedEntry_exact hindex, hsteps,
        (reports_specifiersInto receive file e.name e.value parameters (signedUses scan)).run_bind]
      cases specifiers e.name e.value parameters (signedUses scan) with
      | error failure => rfl
      | ok found =>
          show StateT.run (if isClean (reportAll file found) = true then _ else _) _ =
            Except.ok (if isClean (reportAll file found) = true then _ else _, _)
          cases isClean (reportAll file found) <;> rfl

theorem reports_formatInto (declared : Option (List Parameter)) :
    Reports receive (formatInto receive file policy e declared)
      (formatEntry policy file e declared) EntryOutcome.item EntryOutcome.diagnostics := by
  unfold formatInto formatEntry
  dsimp only
  cases (Format.scan e.value).error with
  | some error => exact reports_rejected receive file _
  | none =>
      cases declared with
      | none => exact reports_plainInto receive file policy e _
      | some parameters => exact reports_parameterizedInto receive file e _ parameters

theorem reports_stringInto :
    Reports receive (stringInto receive file policy e) (stringEntry policy file e)
      EntryOutcome.item EntryOutcome.diagnostics := by
  unfold stringInto stringEntry
  cases Mode.ofComment e.comment with
  | error refusal => exact reports_rejected receive file _
  | ok mode =>
      cases mode with
      | suppressed => exact reports_accepted receive _
      | enumeration variants =>
          dsimp only
          by_cases hallowed : Mode.allows variants e.value = true
          · rw [if_pos hallowed, if_pos hallowed]
            exact reports_accepted receive _
          · rw [if_neg hallowed, if_neg hallowed]
            exact reports_rejected receive file _
      | plain => exact reports_formatInto receive file policy e none
      | parameterized parameters =>
          exact reports_formatInto receive file policy e (some parameters)

theorem reports_includeInto :
    Reports receive (includeInto receive file e) (.ok (includeEntry file e))
      EntryOutcome.item EntryOutcome.diagnostics := by
  unfold includeInto includeEntry
  cases Inclusion.parse? e.value with
  | none => exact reports_rejected receive file _
  | some inclusion => exact reports_accepted receive _

/-- **Step by step.** The steps report what the check of the entry finds and return its item. -/
theorem reports_entryInto :
    Reports receive (entryInto receive file policy e) (entry policy file e)
      EntryOutcome.item EntryOutcome.diagnostics := by
  unfold entryInto entry
  by_cases hinclude : e.isInclude = true
  · rw [if_pos hinclude, if_pos hinclude]
    exact reports_includeInto receive file e
  · rw [if_neg hinclude, if_neg hinclude]
    exact reports_stringInto receive file policy e

/-- A collector is left with what it held, followed by what was found. -/
theorem run_entryInto_collector (held : Result) :
    (entryInto Sink.receive file policy e).run (.collector held) =
      (entry policy file e).map fun out =>
        (out.item, .collector (held.merge (.ofDiagnostics out.diagnostics))) := by
  rw [reports_entryInto]
  cases entry policy file e with
  | error failure => rfl
  | ok out => exact congrArg (fun s => Except.ok (out.item, s)) (Sink.receiveAll_collector held _)

end ResourceAudit.Check
