import ResourceAudit.Check.Outlet
import ResourceAudit.Proofs.Check.Group
import ResourceAudit.Proofs.Collection.Reports

/-!
# Passes that report to an outlet

Each step of a pass reports what its attempt found. Only the collector of the pass decides how
it goes on, so a pass does what the check of its group does without a caller
(`groupInto_eq`).
-/

namespace ResourceAudit

namespace Outlet

theorem receiveAll_append (o : Outlet) (ds es : List Diagnostic) :
    o.receiveAll (ds ++ es) = (o.receiveAll ds).receiveAll es :=
  List.foldl_append

/-- Collecting and forwarding do not disturb each other. -/
theorem receiveAll_eq (o : Outlet) (ds : List Diagnostic) :
    o.receiveAll ds =
      ⟨o.collected.merge (.ofDiagnostics ds), o.sink.map (·.receiveAll ds)⟩ := by
  induction ds generalizing o with
  | nil => simp [receiveAll]
  | cons d ds ih =>
      have hstep : o.receiveAll (d :: ds) = (o.receive d).receiveAll ds := rfl
      rw [hstep, ih]
      unfold receive
      dsimp only
      rw [Result.merge_assoc, ← Result.ofDiagnostics_append, Option.map_map]
      rfl

@[simp]
theorem collected_opened_receiveAll (sink : Option Sink) (ds : List Diagnostic) :
    ((opened sink).receiveAll ds).collected = .ofDiagnostics ds := by
  rw [receiveAll_eq, opened, Result.empty_merge]

@[simp]
theorem sink_opened_receiveAll (sink : Option Sink) (ds : List Diagnostic) :
    ((opened sink).receiveAll ds).sink = sink.map (·.receiveAll ds) := by
  rw [receiveAll_eq, opened]

/-- The errors that a pass counts are its own. -/
theorem errorCount_opened_receiveAll (sink : Option Sink) (ds : List Diagnostic) :
    0 < ((opened sink).receiveAll ds).errorCount ↔ Check.isClean ds = false := by
  rw [errorCount, collected_opened_receiveAll, ← Result.isValid_ofDiagnostics, Result.isValid,
    List.length_pos_iff, ne_eq, List.isEmpty_eq_false_iff]

end Outlet

namespace Check

theorem reports_passBaseEntry (policy : Policy) (file : String) (m : Entry × Bool) :
    Reports Outlet.receive (passBaseEntry policy file m) (baseEntry policy file m)
      Contribution.item fun c => Event.diagnostics c.events :=
  Reports.of_attempt _ _ _

theorem reports_passSatelliteEntry (ref : Reference) (file : String) (m : Entry × Bool) :
    Reports Outlet.receive (passSatelliteEntry ref file m) (satelliteEntry ref file m)
      (fun _ => ()) id :=
  Reports.of_attempt _ _ _

theorem reports_passSatellite (ref : Reference) (s : Satellite) :
    Reports Outlet.receive (passSatellite ref s) (satelliteEntries ref s) (fun _ => ()) id := by
  intro o
  unfold passSatellite satelliteEntries
  rw [Reports.forM (reports_passSatelliteEntry ref s.file)]
  cases (Entry.markRepeats s.entries).mapM (satelliteEntry ref s.file) with
  | error failure => rfl
  | ok dss =>
      show Except.ok ((), o.receiveAll (dss.map id).flatten) = _
      rw [List.map_id]
      rfl

/-- The check of the group by itself. -/
def checkAlone (g : GroupInput) : Except Failure GroupRun :=
  group g.policy g.baseFile g.entries g.satellites

/-- What a caller learns from a run. -/
def resultOf (run : GroupRun) : GroupResult := ⟨run.items, run.result⟩

theorem checkedItems_eq (cs : List Contribution) :
    (cs.map Contribution.item).filterMap id = itemsOf cs := by
  rw [List.filterMap_map]
  rfl

/-- Only the errors of the pass itself end it early, whatever the sink held before. -/
theorem run_unlessError {α : Type} (sink : Option Sink) (ds : List Diagnostic) (x : α)
    (next : Pass α) :
    (Pass.hasError >>= fun stop => if stop then pure x else next).run
        ((Outlet.opened sink).receiveAll ds) =
      if isClean ds then next.run ((Outlet.opened sink).receiveAll ds)
      else .ok (x, (Outlet.opened sink).receiveAll ds) := by
  have hcount := Outlet.errorCount_opened_receiveAll sink ds
  rw [StateT.run_bind]
  show StateT.run (if decide (0 < ((Outlet.opened sink).receiveAll ds).errorCount) = true
    then pure x else next) _ = _
  cases hclean : isClean ds with
  | false =>
      rw [decide_eq_true (hcount.mpr hclean)]
      rfl
  | true =>
      rw [hclean] at hcount
      rw [decide_eq_false (fun h => Bool.noConfusion (hcount.mp h))]
      rfl

/-- What is left of a pass once its satellites have been looked at. -/
theorem run_satellites (sink : Option Sink) (ref : Reference) (base : List Diagnostic)
    (satellites : List Satellite) :
    (satellites.forM (passSatellite ref) >>= fun _ =>
        Pass.hasError >>= fun stop => if stop then pure [] else pure ref.items).run
        ((Outlet.opened sink).receiveAll base) =
      (satellites.mapM (satelliteEntries ref)).map fun dss =>
        (if isClean (base ++ dss.flatten) then ref.items else [],
          (Outlet.opened sink).receiveAll (base ++ dss.flatten)) := by
  have hall := Reports.forM (reports_passSatellite ref) satellites
  simp only [List.map_id] at hall
  rw [hall.run_bind]
  cases satellites.mapM (satelliteEntries ref) with
  | error failure => rfl
  | ok dss =>
      have happend : dss.flatten.foldl Outlet.receive ((Outlet.opened sink).receiveAll base) =
          (Outlet.opened sink).receiveAll (base ++ dss.flatten) :=
        (Outlet.receiveAll_append _ base dss.flatten).symm
      show StateT.run _ (dss.flatten.foldl Outlet.receive _) = _
      rw [happend]
      refine (run_unlessError sink (base ++ dss.flatten) [] (pure ref.items)).trans ?_
      dsimp only [Except.map]
      split <;> rfl

theorem items_checkedRun_eq (baseFile : String) (cs : List Contribution)
    (dss : List (List Diagnostic)) :
    (checkedRun baseFile cs dss).items =
      if isClean (Event.diagnostics (baseEvents [] cs) ++ dss.flatten) then itemsOf cs else [] := by
  show (if Event.hasError _ then [] else itemsOf cs) = _
  rw [Event.hasError_eq_not_isClean, Event.diagnostics_append, diagnostics_reports]
  cases isClean (Event.diagnostics (baseEvents [] cs) ++ dss.flatten) <;> rfl

/-- Whether the pass goes on to the satellites, and whether it exposes its items, is decided
as in a check without a caller. -/
theorem run_passGroup (sink : Option Sink) (g : GroupInput) :
    (passGroup g).run (.opened sink) =
      (checkAlone g).map fun run =>
        (run.items, (Outlet.opened sink).receiveAll (Event.diagnostics run.events)) := by
  unfold passGroup checkAlone
  rw [(Reports.mapM (reports_passBaseEntry g.policy g.baseFile) _).run_bind]
  show baseEntries g.policy g.baseFile g.entries >>= _ = _
  cases hbase : baseEntries g.policy g.baseFile g.entries with
  | error failure =>
      rw [group_failed hbase]
      rfl
  | ok cs =>
      -- The pass has counted the errors of the base, and nothing else, in its collector.
      refine (run_unlessError sink _ [] _).trans ?_
      rw [← diagnostics_baseEvents, checkedItems_eq]
      cases hclean : isClean (Event.diagnostics (baseEvents [] cs)) with
      | false =>
          rw [group_skipped hbase hclean]
          show _ = Except.ok (_, _)
          rw [diagnostics_finish, diagnostics_skippedRun]
          rfl
      | true =>
          rw [group_checked hbase hclean]
          refine (run_satellites sink ⟨g.policy, g.baseFile, itemsOf cs⟩ _ g.satellites).trans ?_
          cases g.satellites.mapM (satelliteEntries ⟨g.policy, g.baseFile, itemsOf cs⟩) with
          | error failure => rfl
          | ok dss =>
              show _ = Except.ok (_, _)
              rw [items_checkedRun_eq, diagnostics_checkedRun]
              rfl

/-- **A caller changes nothing.** The result is that of the check by itself, and the sink
has received what the run reported. -/
theorem groupInto_eq (sink : Option Sink) (g : GroupInput) :
    groupInto sink g = (checkAlone g).map fun run => (resultOf run, sink.map run.forward) := by
  unfold groupInto
  rw [run_passGroup]
  cases checkAlone g with
  | error failure => rfl
  | ok run =>
      show Except.ok (GroupResult.mk run.items _, _) = Except.ok (_, _)
      rw [Outlet.collected_opened_receiveAll, Outlet.sink_opened_receiveAll]
      rfl

end Check

end ResourceAudit
