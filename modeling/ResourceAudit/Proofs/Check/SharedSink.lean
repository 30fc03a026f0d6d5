import ResourceAudit.Proofs.Check.Outlet

/-!
# Sinks shared by groups

A sink that is handed from group to group influences none of them, and nothing is lost or
doubled on the way to it: what reaches it are the errors of the group results in order, and
their warnings in order (`shared_sink_transparent`).
-/

namespace ResourceAudit

/-! ## What reaches a sink -/

/-- What a listener is told about a diagnostic. -/
def Call.of (d : Diagnostic) : Call := ⟨d.severity, d.file, d.text⟩

namespace Sink

/-- From one state of a sink to another exactly the errors and exactly the warnings of some
results reached it, each once and in order. A collector keeps the diagnostics themselves. -/
inductive Received : Sink → List Result → Sink → Prop
  | collector (held : Result) (rs : List Result) :
      Received (.collector held) rs (.collector (rs.foldl Result.merge held))
  | listener (before calls : List Call) (rs : List Result)
      (herrors : calls.filter (·.severity == .error) = (rs.flatMap Result.errors).map Call.of)
      (hwarnings : calls.filter (·.severity == .warning) =
        (rs.flatMap Result.warnings).map Call.of) :
      Received (.listener before) rs (.listener (before ++ calls))

namespace Received

variable {s t u : Sink} {rs rs' : List Result}

theorem refl (s : Sink) : Received s [] s := by
  cases s with
  | collector held => exact .collector held []
  | listener before =>
      have h := listener before [] [] rfl rfl
      rwa [List.append_nil] at h

theorem trans (h : Received s rs t) (h' : Received t rs' u) : Received s (rs ++ rs') u := by
  cases h with
  | collector held =>
      cases h' with
      | collector =>
          rw [← List.foldl_append]
          exact .collector held _
  | listener before calls _ herrors hwarnings =>
      cases h' with
      | listener _ calls' _ herrors' hwarnings' =>
          rw [List.append_assoc]
          refine .listener before _ _ ?_ ?_
          · rw [List.filter_append, herrors, herrors', List.flatMap_append, List.map_append]
          · rw [List.filter_append, hwarnings, hwarnings', List.flatMap_append, List.map_append]

end Received

theorem receiveAll_listener (before : List Call) (ds : List Diagnostic) :
    (listener before).receiveAll ds = listener (before ++ ds.map Call.of) := by
  induction ds generalizing before with
  | nil => simp
  | cons d ds ih =>
      rw [receiveAll, List.foldl_cons, receive, ← receiveAll, ih, List.append_assoc]
      rfl

/-- Diagnostics reach a sink as the result they make up. -/
theorem received_receiveAll (s : Sink) (ds : List Diagnostic) :
    Received s [.ofDiagnostics ds] (s.receiveAll ds) := by
  cases s with
  | collector held =>
      rw [receiveAll_collector]
      exact .collector held [.ofDiagnostics ds]
  | listener before =>
      rw [receiveAll_listener]
      refine .listener before _ _ ?_ ?_
      · rw [List.flatMap_singleton, List.filter_map]
        rfl
      · have hwarning : ((·.severity == .warning) ∘ Call.of) = fun d => !d.isError := by
          funext d
          show (d.severity == .warning) = !(d.severity == .error)
          cases d.severity <;> rfl
        rw [List.flatMap_singleton, List.filter_map, hwarning]
        rfl

end Sink

namespace Check

/-! ## Sequences of groups -/

/-- A run hands its diagnostics to the sink it is given. -/
theorem received_forward (run : GroupRun) (s : Sink) :
    Sink.Received s [run.result] (run.forward s) :=
  Sink.received_receiveAll s (Event.diagnostics run.events)

/-- A sequence of checks with a common sink is the sequence of the checks by themselves, with
the sink handed from run to run. -/
theorem groupsInto_eq (sink : Option Sink) (groups : List GroupInput) :
    groupsInto sink groups = (groups.mapM checkAlone).map fun runs =>
      (runs.map resultOf, sink.map fun s => runs.foldl (fun s run => run.forward s) s) := by
  induction groups generalizing sink with
  | nil => cases sink <;> rfl
  | cons g groups ih =>
      rw [groupsInto, groupInto_eq, List.mapM_cons]
      cases checkAlone g with
      | error failure => rfl
      | ok run =>
          show (groupsInto (sink.map run.forward) groups >>= _) = _
          rw [ih]
          cases groups.mapM checkAlone with
          | error failure => rfl
          | ok runs => cases sink <;> rfl

theorem received_runs (runs : List GroupRun) (s : Sink) :
    Sink.Received s (runs.map GroupRun.result)
      (runs.foldl (fun s run => run.forward s) s) := by
  induction runs generalizing s with
  | nil => exact .refl s
  | cons run runs ih => exact (received_forward run s).trans (ih (run.forward s))

/-- The result of a group is that of checking it without any sink. -/
def IsAlone (g : GroupInput) (r : GroupResult) : Prop :=
  groupInto none g = .ok (r, none)

theorem isAlone_iff {g : GroupInput} {r : GroupResult} :
    IsAlone g r ↔ ∃ run, checkAlone g = .ok run ∧ resultOf run = r := by
  unfold IsAlone
  rw [groupInto_eq, Attempt.map_eq_ok]
  exact exists_congr fun run => and_congr_right fun _ => by simp

/-- **A shared sink neither influences nor loses anything.** Groups can be checked with a
common sink, whatever it holds, exactly if each can be checked alone. Each result is then the
one the group has alone, and exactly the errors and the warnings of the results reach the
sink. -/
theorem shared_sink_transparent (sink : Sink) (groups : List GroupInput) :
    ((∃ out, groupsInto (some sink) groups = .ok out) ↔ ∀ g ∈ groups, ∃ r, IsAlone g r) ∧
      ∀ results final, groupsInto (some sink) groups = .ok (results, final) →
        List.Forall₂ IsAlone groups results ∧
          ∃ after, final = some after ∧ sink.Received (results.map GroupResult.result) after := by
  constructor
  · rw [groupsInto_eq]
    simp only [Attempt.map_eq_ok]
    have halone : (∀ g ∈ groups, ∃ r, IsAlone g r) ↔
        ∀ g ∈ groups, ∃ run, checkAlone g = .ok run := by
      simp [isAlone_iff]
    rw [halone, ← Attempt.exists_mapM_iff]
    exact ⟨fun ⟨_, runs, h, _⟩ => ⟨runs, h⟩, fun ⟨runs, h⟩ => ⟨_, runs, h, rfl⟩⟩
  · intro results final h
    rw [groupsInto_eq] at h
    obtain ⟨runs, hruns, hout⟩ := Attempt.map_eq_ok.mp h
    cases hout
    refine ⟨?_, _, rfl, ?_⟩
    · rw [List.forall₂_map_right_iff]
      exact (Attempt.mapM_eq_ok.mp hruns).imp fun g run hrun => isAlone_iff.mpr ⟨run, hrun, rfl⟩
    · rw [List.map_map]
      exact received_runs runs sink

/-! ## A broken group before a clean one -/

def speedEntry (value : String) : Entry := ⟨"speed", value, some "!(fast, slow)", none⟩

/-- The base value is none of its variants. -/
def brokenGroup : GroupInput :=
  ⟨.strict, "Broken.resx", [speedEntry "warp"], []⟩

/-- The satellite has a resource that the base does not know. -/
def cleanGroup : GroupInput :=
  ⟨.strict, "Clean.resx", [speedEntry "slow"],
    [⟨"Clean.de.resx", [⟨"pace", "langsam", none, none⟩]⟩]⟩

def staleError : Diagnostic :=
  Finding.resourceNameMissing.asError (some "Earlier.resx")

def speedErrors : List Diagnostic :=
  [(Finding.valueNotInVariants "speed" "warp" "(fast, slow)").asError (some "Broken.resx")]

def paceWarnings : List Diagnostic :=
  [(Finding.satelliteOrphanResource "pace" "Clean.de.resx" "Clean.resx").asWarning
    (some "Clean.de.resx")]

def brokenResult : GroupResult := ⟨[], ⟨speedErrors, []⟩⟩

def cleanResult : GroupResult :=
  ⟨[⟨"speed", "slow", stringType, .enumeration ["fast", "slow"], []⟩], ⟨[], paceWarnings⟩⟩

/-- Neither the error that the sink held before nor that of the broken group keeps the
clean group from its satellite and its item. -/
theorem shared_sink_transparent_broken_first :
    groupsInto (some (.collector ⟨[staleError], []⟩)) [brokenGroup, cleanGroup] =
        .ok ([brokenResult, cleanResult],
          some (.collector ⟨staleError :: speedErrors, paceWarnings⟩)) ∧
      List.Forall₂ IsAlone [brokenGroup, cleanGroup] [brokenResult, cleanResult] ∧
      Sink.Received (.collector ⟨[staleError], []⟩) [⟨speedErrors, []⟩, ⟨[], paceWarnings⟩]
        (.collector ⟨staleError :: speedErrors, paceWarnings⟩) := by
  have hrun : groupsInto (some (.collector ⟨[staleError], []⟩)) [brokenGroup, cleanGroup] =
      .ok ([brokenResult, cleanResult],
        some (.collector ⟨staleError :: speedErrors, paceWarnings⟩)) := by
    decide +kernel
  obtain ⟨halone, after, hafter, hreceived⟩ := (shared_sink_transparent _ _).2 _ _ hrun
  cases hafter
  exact ⟨hrun, halone, hreceived⟩

end Check

end ResourceAudit
