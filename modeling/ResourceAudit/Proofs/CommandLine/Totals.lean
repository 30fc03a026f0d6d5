import Mathlib.Algebra.GroupWithZero.Nat
import Mathlib.Data.List.Perm.Basic
import ResourceAudit.CommandLine.Run
import ResourceAudit.Proofs.Project.Partition
import ResourceAudit.Proofs.Project.Relay

/-!
# What the command line reports

The printer sees one event after another and counts; the results of a project are collected
group by group. At every moment the printer has printed the lines of the events so far and
counted their errors and warnings (`Printed`), so in the end its totals are those of the groups,
and the diagnostics it has printed are theirs (`command_line_accounts`).
-/

namespace ResourceAudit

/-! ## What a project reports -/

/-- Discovery logs, and reports nothing. -/
theorem Discovery.diagnostics_events (locales : Culture.Locales) (t : FileTree)
    (paths : List Path) : Event.diagnostics (run locales t paths).events = [] := by
  refine List.filterMap_eq_nil_iff.mpr ?_
  intro e he
  unfold run at he
  simp only [List.mem_append, missingPaths, List.mem_map, List.mem_singleton] at he
  rcases he with ((⟨p, -, rfl⟩ | ⟨segment, -, rfl⟩) | ⟨file, -, rfl⟩) | rfl
  all_goals rfl

/-- The groups are found in the order of their bases. -/
theorem Discovery.ascending_bases (locales : Culture.Locales) (t : FileTree)
    (paths : List Path) : ((run locales t paths).groups.map FileGroup.base).Pairwise (· < ·) := by
  show ((groupsOf locales _).map FileGroup.base).Pairwise (· < ·)
  rw [map_base_groupsOf]
  exact Ascending.pairwise_ofList _

namespace Project.Outcome

/-- The errors of all groups, in the order of the groups. -/
def errors (o : Outcome) : List Diagnostic :=
  o.groups.flatMap fun c => c.run.result.errors

def warnings (o : Outcome) : List Diagnostic :=
  o.groups.flatMap fun c => c.run.result.warnings

/-- The sum of the error counts of the groups. -/
def errorCount (o : Outcome) : Nat :=
  (o.groups.map fun c => c.run.result.errors.length).sum

def warningCount (o : Outcome) : Nat :=
  (o.groups.map fun c => c.run.result.warnings.length).sum

theorem length_errors (o : Outcome) : o.errors.length = o.errorCount :=
  List.length_flatMap

theorem length_warnings (o : Outcome) : o.warnings.length = o.warningCount :=
  List.length_flatMap

variable {platform : Platform} {t : FileTree} {policy : Policy} {paths : List Path} {o : Outcome}

/-- All that is reported about a project is reported about its groups. -/
theorem diagnostics_events (h : check platform t policy paths = .ok o) :
    Event.diagnostics o.events = o.groups.flatMap fun c => Event.diagnostics c.run.events := by
  rw [check_eq] at h
  obtain ⟨cs, -, rfl⟩ := Attempt.map_eq_ok.mp h
  show Event.diagnostics
    ((Discovery.run platform.locales t paths).events ++ cs.flatMap fun c => c.run.events) = _
  rw [Event.diagnostics_append, Discovery.diagnostics_events, List.nil_append]
  exact List.filterMap_flatMap

/-- The events of a project have the errors of its groups and the warnings of its groups. -/
theorem result_events (h : check platform t policy paths = .ok o) :
    Event.result o.events = ⟨o.errors, o.warnings⟩ := by
  unfold Event.result Result.ofDiagnostics
  rw [diagnostics_events h, List.filter_flatMap, List.filter_flatMap]
  rfl

/-- Each diagnostic of each group is reported once. -/
theorem diagnostics_perm (h : check platform t policy paths = .ok o) :
    (Event.diagnostics o.events).Perm (o.groups.flatMap fun c => c.run.result.diagnostics) := by
  rw [diagnostics_events h]
  refine List.Perm.flatMap_left _ fun c _ => ?_
  exact (List.filter_append_perm _ _).symm

end Project.Outcome

namespace CommandLine

/-! ## What the printer has seen -/

variable {s : Settings}

/-- The printer has printed the lines of some events, and counted their errors and warnings. -/
structure Printed (s : Settings) (events : List Event) (p : Printer) : Prop where
  errors : p.errors = (Event.result events).errors.length
  warnings : p.warnings = (Event.result events).warnings.length
  lines : p.lines = events.filterMap (lineOf s)

theorem printed_start (s : Settings) : Printed s [] .start :=
  ⟨rfl, rfl, rfl⟩

theorem lines_notice (p : Printer) (e : Event) :
    (p.notice s e).lines = p.lines ++ (lineOf s e).toList := by
  cases e with
  | log record => rfl
  | report d =>
      show (Printer.count _ d).lines = _
      unfold Printer.count
      split <;> rfl

/-- A diagnostic is counted as what it is, and a log line not at all. -/
theorem counts_notice (p : Printer) (e : Event) :
    (p.notice s e).errors = p.errors + (Event.result [e]).errors.length ∧
      (p.notice s e).warnings = p.warnings + (Event.result [e]).warnings.length := by
  cases e with
  | log record => exact ⟨rfl, rfl⟩
  | report d =>
      show (Printer.count _ d).errors = _ + (Result.ofDiagnostics [d]).errors.length ∧
        (Printer.count _ d).warnings = _ + (Result.ofDiagnostics [d]).warnings.length
      cases hd : d.isError <;> simp [Printer.count, Result.ofDiagnostics, hd]

/-- What holds of the events so far holds with one event more. -/
theorem Printed.notice {events : List Event} {p : Printer} (h : Printed s events p) (e : Event) :
    Printed s (events ++ [e]) (p.notice s e) := by
  obtain ⟨herrors, hwarnings⟩ := counts_notice (s := s) p e
  have hresult : Event.result (events ++ [e]) =
      (Event.result events).merge (Event.result [e]) := Event.result_append _ _
  refine ⟨?_, ?_, ?_⟩
  · rw [herrors, h.errors, hresult]
    exact List.length_append.symm
  · rw [hwarnings, h.warnings, hresult]
    exact List.length_append.symm
  · rw [lines_notice, h.lines, List.filterMap_append]
    cases hline : lineOf s e <;> simp [hline]

theorem Printed.foldl {events : List Event} {p : Printer} (h : Printed s events p)
    (more : List Event) : Printed s (events ++ more) (more.foldl (Printer.notice s) p) := by
  induction more generalizing events p with
  | nil =>
      rw [List.append_nil]
      exact h
  | cons e more ih =>
      have hmore := ih (h.notice e)
      rw [List.append_assoc] at hmore
      exact hmore

/-! ## Runs -/

/-- The paths that are searched. -/
def Settings.roots (s : Settings) : List Path :=
  s.paths.map Path.ofString

/-- The events that are printed about a project: its own, and a line after the last group. -/
def printedEvents (o : Project.Outcome) : List Event :=
  o.events ++ if o.groups.isEmpty then [] else [closingLine o.groups.length]

def lastLine (o : Project.Outcome) : String :=
  if o.groups.isEmpty then nothingFound else totals o.errorCount o.warningCount

def exitCodeOf (o : Project.Outcome) : Nat :=
  if o.groups.isEmpty then 2 else if 0 < o.errorCount then 1 else 0

/-- What the run ends with, told by the results of the groups. -/
theorem runWith_eq (platform : Platform) (t : FileTree) (s : Settings) :
    runWith platform t s = (Project.check platform t s.policy s.roots).map fun o =>
      .finished (exitCodeOf o) ((printedEvents o).filterMap (lineOf s) ++ [lastLine o]) := by
  unfold runWith
  rw [Project.projectInto_eq]
  show ((Project.check platform t s.policy s.roots).map _ >>= _) = _
  cases hcheck : Project.check platform t s.policy s.roots with
  | error failure => rfl
  | ok o =>
      have hprinted := (printed_start s).foldl o.events
      rw [List.nil_append] at hprinted
      show (if (o.groups.map Project.learned).isEmpty then Except.ok _ else Except.ok _) =
        Except.ok _
      unfold exitCodeOf printedEvents lastLine
      rw [List.isEmpty_map]
      dsimp only
      cases hempty : o.groups.isEmpty with
      | true =>
          show Except.ok (Outcome.finished 2 (_ ++ [nothingFound])) =
            Except.ok (Outcome.finished 2 ((o.events ++ []).filterMap (lineOf s) ++ [nothingFound]))
          rw [hprinted.lines, List.append_nil]
      | false =>
          have hclosed := hprinted.notice (closingLine (o.groups.map Project.learned).length)
          have hresult : Event.result
              (o.events ++ [closingLine (o.groups.map Project.learned).length]) =
                ⟨o.errors, o.warnings⟩ := by
            rw [Event.result_append, Project.Outcome.result_events hcheck]
            exact Result.merge_empty _
          show Except.ok (Outcome.finished (if 0 < Printer.errors _ then 1 else 0)
            (Printer.lines _ ++ [totals _ _])) = Except.ok (Outcome.finished
              (if 0 < o.errorCount then 1 else 0)
              ((o.events ++ [closingLine o.groups.length]).filterMap (lineOf s) ++
                [totals o.errorCount o.warningCount]))
          rw [hclosed.errors, hclosed.warnings, hclosed.lines, hresult, List.length_map,
            Project.Outcome.length_errors, Project.Outcome.length_warnings]

/-! ## The account of a run -/

/-- Whether an event is to be seen: a report always, a log line from the requested level on. -/
def isVisible (s : Settings) : Event → Bool
  | .report _ => true
  | .log record => s.threshold.rank ≤ record.level.rank

/-- How an event is to be seen: a diagnostic in the chosen style, a log line as it is. -/
def textOf (style : LineStyle) : Event → String
  | .report d => style.line d
  | .log record => record.line

/-- What is to be seen of a project. -/
def visibleEvents (s : Settings) (o : Project.Outcome) : List Event :=
  (printedEvents o).filter (isVisible s)

/-- What a finished run says about a project whose check has an outcome. Its lines but the last are
those of the diagnostics of the groups, in the chosen style, with log lines between them. -/
structure Accounts (platform : Platform) (t : FileTree) (s : Settings) (o : Project.Outcome)
    (exitCode : Nat) (lines : List String) : Prop where
  groups : o.groups.map Project.CheckedGroup.group =
    (Discovery.run platform.locales t s.roots).groups
  ascending : (o.groups.map fun c => c.group.base).Pairwise (· < ·)
  nothing : exitCode = 2 ↔ (Discovery.run platform.locales t s.roots).groups = []
  exitCode_eq : (Discovery.run platform.locales t s.roots).groups ≠ [] →
    exitCode = if 0 < o.errorCount then 1 else 0
  last : (Discovery.run platform.locales t s.roots).groups ≠ [] →
    lines.getLast? = some (totals o.errorCount o.warningCount)
  printed : lines.dropLast = (visibleEvents s o).map (textOf s.style)
  errors : (Event.diagnostics (visibleEvents s o)).filter (·.isError) = o.errors
  warnings : (Event.diagnostics (visibleEvents s o)).filter (!·.isError) = o.warnings
  once : (Event.diagnostics (visibleEvents s o)).Perm
    (o.groups.flatMap fun c => c.run.result.diagnostics)

/-- The printer prints what is to be seen as it is to be seen. -/
theorem filterMap_lineOf (s : Settings) (events : List Event) :
    events.filterMap (lineOf s) = (events.filter (isVisible s)).map (textOf s.style) := by
  induction events with
  | nil => rfl
  | cons e events ih =>
      rw [List.filterMap_cons, List.filter_cons, ih]
      cases e with
      | report d => rfl
      | log record =>
          unfold lineOf isVisible
          by_cases hlevel : s.threshold.rank ≤ record.level.rank
          · simp [hlevel, textOf]
          · simp [hlevel]

/-- No diagnostic is kept from being seen. -/
theorem diagnostics_filter_isVisible (s : Settings) (events : List Event) :
    Event.diagnostics (events.filter (isVisible s)) = Event.diagnostics events := by
  induction events with
  | nil => rfl
  | cons e events ih =>
      rw [List.filter_cons]
      cases e with
      | report d => exact congrArg (d :: ·) ih
      | log record =>
          split
          · exact ih
          · exact ih

theorem diagnostics_visibleEvents (s : Settings) (o : Project.Outcome) :
    Event.diagnostics (visibleEvents s o) = Event.diagnostics o.events := by
  unfold visibleEvents printedEvents
  rw [diagnostics_filter_isVisible, Event.diagnostics_append]
  cases o.groups.isEmpty <;> exact List.append_nil _

theorem accounts_of_check {platform : Platform} {t : FileTree} {s : Settings}
    {o : Project.Outcome} (h : Project.check platform t s.policy s.roots = .ok o) :
    Accounts platform t s o (exitCodeOf o)
      ((printedEvents o).filterMap (lineOf s) ++ [lastLine o]) := by
  have hgroups := Project.groups_of_check h
  have hbases : (o.groups.map fun c => c.group.base) =
      (Discovery.run platform.locales t s.roots).groups.map FileGroup.base := by
    rw [← hgroups, List.map_map]
    rfl
  have hresult := Project.Outcome.result_events h
  refine ⟨hgroups, ?_, ?_, ?_, ?_, ?_, ?_, ?_, ?_⟩
  · rw [hbases]
    exact Discovery.ascending_bases platform.locales t s.roots
  · rw [← hgroups, List.map_eq_nil_iff]
    unfold exitCodeOf
    cases o.groups with
    | nil => exact iff_of_true rfl rfl
    | cons c cs =>
        refine iff_of_false ?_ nofun
        show (if 0 < _ then 1 else 0) ≠ 2
        split <;> decide
  · intro hfound
    rw [← hgroups, ne_eq, List.map_eq_nil_iff, ← List.isEmpty_iff] at hfound
    exact if_neg hfound
  · intro hfound
    rw [← hgroups, ne_eq, List.map_eq_nil_iff, ← List.isEmpty_iff] at hfound
    rw [List.getLast?_concat]
    exact congrArg some (if_neg hfound)
  · rw [List.dropLast_concat]
    exact filterMap_lineOf s (printedEvents o)
  · rw [diagnostics_visibleEvents]
    exact congrArg Result.errors hresult
  · rw [diagnostics_visibleEvents]
    exact congrArg Result.warnings hresult
  · rw [diagnostics_visibleEvents]
    exact Project.Outcome.diagnostics_perm h

/-- **The command line reports what the check of the project found.** With arguments that can
be used, the run finishes exactly if the check of the project does. It prints the diagnostics
of the groups in the chosen style, each once, the errors in the order of the groups and the
warnings likewise. Its last line has the sums of the counts of the groups, and the exit code is 2
if there is no group, and else tells whether there is an error. -/
theorem command_line_accounts (platform : Platform) {t : FileTree} {arguments : List String}
    {s : Settings} (hparse : Settings.parse arguments = .ok s) :
    ((∃ out, run platform t arguments = .ok out) ↔
        ∃ o, Project.check platform t s.policy s.roots = .ok o) ∧
      ∀ o, Project.check platform t s.policy s.roots = .ok o →
        ∃ exitCode lines, run platform t arguments = .ok (.finished exitCode lines) ∧
          Accounts platform t s o exitCode lines := by
  have hrun : run platform t arguments = runWith platform t s := by
    unfold run
    rw [hparse]
  rw [hrun, runWith_eq]
  refine ⟨Attempt.exists_map_iff, ?_⟩
  intro o ho
  rw [ho]
  exact ⟨_, _, rfl, accounts_of_check ho⟩

/-! ## A warning and an error -/

/-- A base without a declaration, and a file that is cut short. -/
def mixedTree : FileTree :=
  ⟨[], [(["a.resx"], Project.ascii "<root><data name=\"n\"><value>{0}</value></data></root>"),
    (["b.resx"], Project.ascii "<root>")], []⟩

def mixedSettings : Settings :=
  ⟨["."], true, .buildLog, none, 0⟩

def undeclared : Diagnostic :=
  (Finding.parametersDeclarationMissing "n").asWarning (some "a.resx")

def undeclaredRun : GroupRun where
  items := [⟨"n", "{0}", stringType, .plain, [0]⟩]
  events :=
    [.log ⟨.debug, .reading, "Read 1 entries from a.resx"⟩, .report undeclared,
      Check.summaryLine "a.resx" 1 ⟨[], [undeclared]⟩]

def mixedOutcome : Project.Outcome where
  discovery := [Discovery.log .info "Discovered 2 resource group(s)"]
  groups :=
    [⟨Project.soleGroup "a.resx", undeclaredRun⟩, ⟨Project.soleGroup "b.resx", Project.cutShortRun⟩]

/-- A log line about the file that is cut short stands between the two diagnostics. -/
def mixedLines : List String :=
  ["a.resx(1,1): warning RSX5001: n: string value contains formatting placeholders, but the " ++
      "function parameters declaration is missing in the comment",
    "WARNING resxlint.validation.resource: Cannot read b.resx: no element found: line 1, column 6",
    "b.resx(1,1): error RSX1009: b.resx: Unable to read resource file: no element found: " ++
      "line 1, column 6",
    "resxlint completed with 1 errors and 1 warnings."]

theorem command_line_accounts_mixed :
    Settings.parse ["--lenient", "."] = .ok mixedSettings ∧
      Project.check .bare mixedTree .lenient mixedSettings.roots = .ok mixedOutcome ∧
      Accounts .bare mixedTree mixedSettings mixedOutcome 1 mixedLines ∧
      run .bare mixedTree ["--lenient", "."] = .ok (.finished 1 mixedLines) := by
  have hparse : Settings.parse ["--lenient", "."] = .ok mixedSettings := by decide +kernel
  have hcheck : Project.check .bare mixedTree .lenient mixedSettings.roots = .ok mixedOutcome := by
    decide +kernel
  have hlines : run .bare mixedTree ["--lenient", "."] = .ok (.finished 1 mixedLines) := by
    decide +kernel
  obtain ⟨exitCode, lines, hrun, haccounts⟩ := (command_line_accounts .bare hparse).2 _ hcheck
  -- The run has one outcome, which is the one that the account is of.
  rw [hlines] at hrun
  obtain ⟨rfl, rfl⟩ := Outcome.finished.inj (Except.ok.inj hrun)
  exact ⟨hparse, hcheck, haccounts, hlines⟩

end CommandLine

end ResourceAudit
