import ResourceAudit.Project.Relay
import ResourceAudit.Proofs.Check.Outlet
import ResourceAudit.Proofs.Project.Isolation

/-!
# Checks under way

A check that reports step by step makes the run over its files, and its listener has heard the
events of the run in order (`filesInto_eq`). The moments at which the check looks at what its
group has collected are those at which the run looks at its events. A project is then the list
of its groups, for one listener (`projectInto_eq`).
-/

namespace ResourceAudit

variable {σ : Type} {notice : σ → Event → σ}

namespace Relay

/-- A group has collected the result of its events, and the listener has heard them all. -/
theorem foldl_receive (r : Relay σ) (es : List Event) :
    es.foldl (receive notice) r =
      ⟨r.collected.merge (Event.result es), es.foldl notice r.listener⟩ := by
  induction es generalizing r with
  | nil => simp
  | cons e es ih =>
      have hresult : Event.result (e :: es) = (Event.result [e]).merge (Event.result es) :=
        Event.result_append [e] es
      rw [List.foldl_cons, ih, hresult, ← Result.merge_assoc]
      rfl

theorem foldl_receive_opened (listener : σ) (es : List Event) :
    es.foldl (receive notice) (opened listener) =
      ⟨Event.result es, es.foldl notice listener⟩ := by
  rw [foldl_receive]
  simp [opened]

end Relay

/-- Whether a group has collected an error is whether one of its events is an error. -/
theorem Watch.run_unlessError {α : Type} (es : List Event) (listener : σ)
    (stop next : Watch σ α) :
    (Watch.hasError >>= fun failed => if failed then stop else next).run
        (es.foldl (Relay.receive notice) (.opened listener)) =
      if Event.hasError es then stop.run (es.foldl (Relay.receive notice) (.opened listener))
      else next.run (es.foldl (Relay.receive notice) (.opened listener)) := by
  have hvalid : (!(es.foldl (Relay.receive notice) (.opened listener)).collected.isValid) =
      Event.hasError es := by
    rw [Relay.foldl_receive_opened, Event.isValid_result, Bool.not_not]
  rw [StateT.run_bind]
  show StateT.run (if (!(es.foldl (Relay.receive notice) (.opened listener)).collected.isValid) =
    true then stop else next) _ = _
  rw [hvalid]
  cases Event.hasError es <;> rfl

namespace Project

variable {read : Read} {policy : Policy} {base : Path} {entries : List Entry}
  {satellites : List Path}

/-! ## Steps -/

theorem reports_watchRead (p : Path) :
    Reports (Relay.receive notice) (watchRead notice read p) (arriveBy read p) Prod.snd
      Prod.fst :=
  Reports.of_attempt _ _ _

theorem reports_watchBaseEntry (policy : Policy) (file : String) (m : Entry × Bool) :
    Reports (Relay.receive notice) (watchBaseEntry notice policy file m)
      (Check.baseEntry policy file m) Check.Contribution.item Check.Contribution.events :=
  Reports.of_attempt _ _ _

theorem reports_watchSatelliteEntry (ref : Check.Reference) (file : String) (m : Entry × Bool) :
    Reports (Relay.receive notice) (watchSatelliteEntry notice ref file m)
      (Check.satelliteEntry ref file m) (fun _ => ()) (List.map Event.report) :=
  Reports.of_attempt _ _ _

/-- A satellite reports what it reports to a run that meets it. -/
theorem reports_watchSatellite (ref : Check.Reference) (p : Path) :
    Reports (Relay.receive notice) (watchSatellite notice read ref p)
      (Check.arrival ref (arriveSatelliteBy read p)) (fun _ => ()) id := by
  intro r
  unfold watchSatellite
  rw [(reports_watchRead p).run_bind, arriveSatelliteBy_eq]
  cases arriveBy read p with
  | error failure => rfl
  | ok met =>
      obtain ⟨events, entries⟩ := met
      cases entries with
      | none => rfl
      | some entries =>
          have hentries : Reports (Relay.receive notice)
              ((Entry.markRepeats entries).forM (watchSatelliteEntry notice ref p.text))
              ((Entry.markRepeats entries).mapM (Check.satelliteEntry ref p.text)) (fun _ => ())
              fun dss => (dss.map (List.map Event.report)).flatten :=
            Reports.forM (reports_watchSatelliteEntry ref p.text) _
          show StateT.run _ (events.foldl (Relay.receive notice) r) = _
          rw [hentries]
          show _ = ((Check.satelliteEntries ref ⟨p.text, entries⟩ >>= _ : Except _ _)).map _
          unfold Check.satelliteEntries
          cases (Entry.markRepeats entries).mapM (Check.satelliteEntry ref p.text) with
          | error failure => rfl
          | ok dss =>
              show Except.ok ((), _) = Except.ok ((), (events ++ _).foldl _ r)
              rw [List.foldl_append, List.map_flatten]

/-! ## Groups -/

/-- What is left of a check once its satellites have been met. -/
theorem run_satellites (ref : Check.Reference) (base : List Event) (listener : σ) :
    (satellites.forM (watchSatellite notice read ref) >>= fun _ =>
        Watch.hasError >>= fun failed => if failed then pure [] else pure ref.items).run
        (base.foldl (Relay.receive notice) (.opened listener)) =
      ((satellites.map (arriveSatelliteBy read)).mapM (Check.arrival ref)).map fun verified =>
        ((Check.verifiedRun ref.items (base ++ verified.flatten)).items,
          (base ++ verified.flatten).foldl (Relay.receive notice) (.opened listener)) := by
  have hall : Reports (Relay.receive notice) (satellites.forM (watchSatellite notice read ref))
      (satellites.mapM fun p => Check.arrival ref (arriveSatelliteBy read p)) (fun _ => ())
      fun ess => (ess.map id).flatten :=
    Reports.forM (reports_watchSatellite ref) satellites
  simp only [List.map_id] at hall
  rw [hall.run_bind, List.mapM_map]
  show _ = (satellites.mapM fun p => Check.arrival ref (arriveSatelliteBy read p)).map _
  cases satellites.mapM fun p => Check.arrival ref (arriveSatelliteBy read p) with
  | error failure => rfl
  | ok verified =>
      show StateT.run _ (verified.flatten.foldl (Relay.receive notice) _) = _
      rw [← List.foldl_append]
      refine (Watch.run_unlessError (base ++ verified.flatten) listener _ _).trans ?_
      unfold Check.verifiedRun
      dsimp only [Except.map]
      split <;> rfl

/-- Whether satellites are met and whether items are exposed is decided as in a run over the
events that have been reported. -/
theorem run_watchEntries (opening : List Event) (listener : σ) :
    (watchEntries notice read policy base entries satellites).run
        (opening.foldl (Relay.receive notice) (.opened listener)) =
      (Check.runGroup policy base.text opening entries
        (satellites.map (arriveSatelliteBy read))).map fun run =>
          (run.items, run.events.foldl (Relay.receive notice) (.opened listener)) := by
  unfold watchEntries
  rw [(Reports.mapM (reports_watchBaseEntry policy base.text) _).run_bind]
  show Check.baseEntries policy base.text entries >>= _ = _
  cases hbase : Check.baseEntries policy base.text entries with
  | error failure =>
      rw [Check.runGroup_failed hbase]
      rfl
  | ok cs =>
      show StateT.run _ ((cs.map Check.Contribution.events).flatten.foldl _ _) = _
      rw [← List.foldl_append]
      refine (Watch.run_unlessError (Check.baseEvents opening cs) listener _ _).trans ?_
      rw [Check.checkedItems_eq]
      cases hhas : Event.hasError (Check.baseEvents opening cs) with
      | true =>
          rw [Check.runGroup_skipped hbase hhas]
          show _ = Except.ok (_, (Check.baseEvents opening cs ++ _).foldl _ _)
          rw [List.foldl_append]
          rfl
      | false =>
          rw [Check.runGroup_verified hbase hhas]
          refine (run_satellites ⟨policy, base.text, Check.itemsOf cs⟩ _ listener).trans ?_
          cases (satellites.map (arriveSatelliteBy read)).mapM (Check.arrival _) <;> rfl

/-- The closing line counts what has been collected, which is the result of the run. -/
theorem run_watchToEnd (opening : List Event) (listener : σ) :
    (watchToEnd notice read policy base entries satellites).run
        (opening.foldl (Relay.receive notice) (.opened listener)) =
      ((Check.runGroup policy base.text opening entries
        (satellites.map (arriveSatelliteBy read))).map (Check.finish base.text)).map fun run =>
          (run.items, run.events.foldl (Relay.receive notice) (.opened listener)) := by
  unfold watchToEnd
  rw [StateT.run_bind, run_watchEntries]
  cases Check.runGroup policy base.text opening entries
    (satellites.map (arriveSatelliteBy read)) with
  | error failure => rfl
  | ok run =>
      have hclosed : (Check.finish base.text run).events.foldl (Relay.receive notice)
            (.opened listener) =
          [Check.summaryLine base.text run.items.length
            (run.events.foldl (Relay.receive notice) (.opened listener)).collected].foldl
            (Relay.receive notice)
            (run.events.foldl (Relay.receive notice) (.opened listener)) := by
        rw [← List.foldl_append, Relay.foldl_receive_opened listener run.events]
        rfl
      exact congrArg (fun r => Except.ok (run.items, r)) hclosed.symm

theorem run_watchFiles (listener : σ) :
    (watchFiles notice read policy base satellites).run (.opened listener) =
      (checkFilesBy read policy base satellites).map fun run =>
        (run.items, run.events.foldl (Relay.receive notice) (.opened listener)) := by
  unfold watchFiles
  rw [(reports_watchRead base).run_bind]
  cases hbase : arriveBy read base with
  | error failure =>
      rw [checkFilesBy_failed hbase]
      rfl
  | ok met =>
      obtain ⟨opening, entries⟩ := met
      cases entries with
      | none =>
          rw [checkFilesBy_unreadable hbase]
          rfl
      | some entries =>
          rw [checkFilesBy_read hbase]
          exact run_watchToEnd opening listener

/-- **A check under way makes the run over its files**, and its listener has heard the events of
the run. -/
theorem filesInto_eq (listener : σ) :
    filesInto notice read policy base satellites listener =
      (checkFilesBy read policy base satellites).map fun run =>
        (Check.resultOf run, run.events.foldl notice listener) := by
  unfold filesInto
  rw [run_watchFiles]
  cases checkFilesBy read policy base satellites with
  | error failure => rfl
  | ok run =>
      show Except.ok (GroupResult.mk run.items _, _) = Except.ok (_, _)
      rw [Relay.foldl_receive_opened]
      rfl

/-! ## Projects -/

/-- What a listener of the project learns about a group once it is checked. -/
def learned (c : CheckedGroup) : FileGroup × GroupResult :=
  (c.group, Check.resultOf c.run)

theorem reports_fileGroupInto (platform : Platform) (t : FileTree) (policy : Policy)
    (g : FileGroup) :
    Reports notice (fileGroupInto notice (readResource platform t) policy g)
      ((checkGroup platform t policy g).map (CheckedGroup.mk g)) learned fun c => c.run.events := by
  intro listener
  have hfiles : filesInto notice (readResource platform t) policy g.base g.satellites listener =
      (checkGroup platform t policy g).map fun run =>
        (Check.resultOf run, run.events.foldl notice listener) := filesInto_eq listener
  unfold fileGroupInto StateT.run
  dsimp only
  rw [hfiles]
  cases checkGroup platform t policy g <;> rfl

/-- **A project is checked group by group.** The listener has heard all events of the project
in order, whatever each group made of its own. -/
theorem projectInto_eq (platform : Platform) (t : FileTree) (policy : Policy)
    (paths : List Path) (listener : σ) :
    projectInto notice platform t policy paths listener =
      (check platform t policy paths).map fun o =>
        (o.groups.map learned, o.events.foldl notice listener) := by
  unfold projectInto
  rw [Reports.mapM (reports_fileGroupInto platform t policy), check_eq]
  cases (Discovery.run platform.locales t paths).groups.mapM fun g =>
      (checkGroup platform t policy g).map (CheckedGroup.mk g) with
  | error failure => rfl
  | ok cs =>
      show Except.ok (_, _) =
        Except.ok (_, ((Discovery.run platform.locales t paths).events ++ _).foldl _ _)
      rw [List.foldl_append]
      rfl

end Project

end ResourceAudit
