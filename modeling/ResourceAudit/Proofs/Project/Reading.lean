import ResourceAudit.Proofs.Project.Relay

/-!
# Reading and then checking

A check of files reads while it checks: a satellite is read when its turn comes, into the
collector that decides how the check goes on. What comes out is what reading each file for
itself and checking the entries would give (`files_read_then_checked`): the result of reading
the base, the result of the group that its entries make without satellites, and, if both are
valid, the result of each satellite by itself. Nothing is read after a base with an error.
-/

namespace ResourceAudit

namespace Reading

/-- What is found in a document is collected by severity. -/
theorem sorted_ofTree (file : String) (root : Markup.Node) : (ofTree file root).result.Sorted := by
  unfold ofTree
  split <;> exact Result.sorted_ofDiagnostics _

theorem sorted_ofSource {platform : Platform} {file : String} {source : Markup.Source}
    {reading : Reading} (h : ofSource platform file source = .ok (.read reading)) :
    reading.result.Sorted := by
  obtain ⟨outcome, -, hread⟩ := Attempt.map_eq_ok.mp h
  split at hread
  · cases hread
    exact sorted_ofTree file _
  · cases hread

@[simp]
theorem diagnostics_progress (file : String) (reading : Reading) :
    Event.diagnostics (progress file reading) = [] := by
  unfold progress
  split <;> rfl

end Reading

namespace Project

/-- A way to read files, each to one outcome. The errors of a reading are errors and its
warnings are warnings. -/
structure Reader where
  read : Read
  sorted : ∀ p reading, read p = .ok (.read reading) → reading.result.Sorted

/-- A tree is read as its files are. -/
def Reader.ofTree (platform : Platform) (t : FileTree) : Reader where
  read := readResource platform t
  sorted := by
    intro p reading h
    unfold readResource at h
    split at h
    · cases h
    · exact Reading.sorted_ofSource h

/-! ## The parts of a result -/

/-- The one error about a file that cannot be read. -/
def unreadableResult (p : Path) (reason : String) : Result :=
  ⟨[(Finding.fileUnreadable p.text reason).asError (some p.text)], []⟩

/-- The entries of a base by themselves. -/
def entriesOnly (policy : Policy) (base : Path) (reading : Reading) : GroupInput :=
  ⟨policy, base.text, reading.entries, []⟩

/-- What a satellite adds to a group with a valid base: it is unreadable, or it is read and its
entries are verified against the items of the base. -/
def satelliteResult (R : Reader) (ref : Check.Reference) (p : Path) : Except Failure Result := do
  match ← R.read p with
  | .unreadable reason => return unreadableResult p reason
  | .read reading =>
      let found ← Check.satelliteEntries ref ⟨p.text, reading.entries⟩
      return reading.result.merge (.ofDiagnostics found)

/-- Reads the base and checks its entries, then, if all that is valid, does so with each
satellite for itself. -/
def readThenCheck (R : Reader) (policy : Policy) (base : Path) (satellites : List Path) :
    Except Failure GroupResult := do
  match ← R.read base with
  | .unreadable reason => return ⟨[], unreadableResult base reason⟩
  | .read reading =>
      let (alone, _) ← Check.groupInto none (entriesOnly policy base reading)
      let ofBase := reading.result.merge alone.result
      if ofBase.isValid then
        let added ← satellites.mapM (satelliteResult R ⟨policy, base.text, alone.items⟩)
        let all := added.foldl Result.merge ofBase
        return ⟨if all.isValid then alone.items else [], all⟩
      else return ⟨[], ofBase⟩

/-- The base is unreadable, or there is an error in it as a document or in its entries; and
with what result the check of its group ends there. -/
inductive EndsWithBase (R : Reader) (policy : Policy) (base : Path) : GroupResult → Prop
  | unreadable (reason : String) (hread : R.read base = .ok (.unreadable reason)) :
      EndsWithBase R policy base ⟨[], unreadableResult base reason⟩
  | invalid (reading : Reading) (hread : R.read base = .ok (.read reading))
      (alone : GroupResult)
      (halone : Check.groupInto none (entriesOnly policy base reading) = .ok (alone, none))
      (herror : (reading.result.merge alone.result).isValid = false) :
      EndsWithBase R policy base ⟨[], reading.result.merge alone.result⟩

/-! ## What reading reports -/

section Parts

variable {R : Reader} {policy : Policy} {base p : Path} {satellites : List Path}

theorem result_reports (ds : List Diagnostic) :
    Event.result (ds.map Event.report) = .ofDiagnostics ds := by
  unfold Event.result
  rw [Event.diagnostics_map_report]

/-- Reading reports the result of the reading. -/
theorem result_reading {reading : Reading} (hread : R.read p = .ok (.read reading)) :
    Event.result (Reading.progress p.text reading ++
      reading.result.diagnostics.map Event.report) = reading.result := by
  rw [Event.result_append, result_reports, (R.sorted p reading hread).ofDiagnostics_eq,
    Event.result, Reading.diagnostics_progress, Result.ofDiagnostics_nil, Result.empty_merge]

theorem result_satellite (ref : Check.Reference) (p : Path) :
    (Check.arrival ref (arriveSatelliteBy R.read p)).map Event.result =
      satelliteResult R ref p := by
  unfold satelliteResult
  rw [arriveSatelliteBy_eq]
  unfold arriveBy
  cases hread : R.read p with
  | error failure => rfl
  | ok outcome =>
      cases outcome with
      | unreadable reason => rfl
      | read reading =>
          show ((Check.satelliteEntries ref ⟨p.text, reading.entries⟩ >>= _ : Except _ _)).map _ =
            Check.satelliteEntries ref ⟨p.text, reading.entries⟩ >>= _
          cases Check.satelliteEntries ref ⟨p.text, reading.entries⟩ with
          | error failure => rfl
          | ok found =>
              show Except.ok (Event.result (_ ++ found.map Event.report)) = Except.ok _
              rw [Event.result_append, result_reading hread, result_reports]

/-- Satellite by satellite, the results of events merge to the result of all events. -/
theorem foldl_merge_result (r : Result) (ess : List (List Event)) :
    (ess.map Event.result).foldl Result.merge r = r.merge (Event.result ess.flatten) := by
  induction ess generalizing r with
  | nil => simp
  | cons es ess ih =>
      rw [List.map_cons, List.foldl_cons, ih, List.flatten_cons, Event.result_append,
        Result.merge_assoc]

/-- The entries of a base by themselves are a group that ends after its base. -/
theorem groupInto_entriesOnly (reading : Reading) :
    Check.groupInto none (entriesOnly policy base reading) =
      (Check.baseEntries policy base.text reading.entries).map fun cs =>
        (⟨if Event.hasError (Check.baseEvents [] cs) then [] else Check.itemsOf cs,
          Event.result (Check.baseEvents [] cs)⟩, none) := by
  rw [Check.groupInto_eq]
  unfold Check.checkAlone entriesOnly
  cases hbase : Check.baseEntries policy base.text reading.entries with
  | error failure =>
      rw [Check.group_failed hbase]
      rfl
  | ok cs =>
      cases hclean : Check.isClean (Event.diagnostics (Check.baseEvents [] cs)) with
      | false =>
          rw [Check.group_skipped hbase hclean]
          show Except.ok (GroupResult.mk [] (Result.ofDiagnostics _), _) = Except.ok (_, _)
          rw [Check.diagnostics_finish, Check.diagnostics_skippedRun,
            Event.hasError_eq_not_isClean, hclean]
          rfl
      | true =>
          rw [Check.group_checked hbase hclean, List.mapM_nil]
          show Except.ok (GroupResult.mk (Check.checkedRun base.text cs []).items
            (Result.ofDiagnostics _), _) = Except.ok (_, _)
          rw [Check.items_checkedRun_eq, Check.diagnostics_checkedRun, List.flatten_nil,
            List.append_nil, Event.hasError_eq_not_isClean, hclean]
          rfl

/-! ## The result of a group -/

/-- The summary line adds nothing to what a caller learns. -/
theorem resultOf_finish (file : String) (run : GroupRun) :
    Check.resultOf (Check.finish file run) = Check.resultOf run := by
  unfold Check.resultOf GroupRun.result Event.result
  rw [Check.diagnostics_finish]
  rfl

theorem resultOf_skippedRun (file : String) (events : List Event) :
    Check.resultOf (Check.skippedRun file events) = ⟨[], Event.result events⟩ := by
  unfold Check.resultOf GroupRun.result Event.result
  rw [Check.diagnostics_skippedRun]
  rfl

theorem resultOf_verifiedRun (items : List Item) (events : List Event) :
    Check.resultOf (Check.verifiedRun items events) =
      ⟨if (Event.result events).isValid then items else [], Event.result events⟩ := by
  rw [Event.isValid_result]
  unfold Check.resultOf Check.verifiedRun GroupRun.result
  cases Event.hasError events <;> rfl

theorem arriveBy_unreadable {reason : String} (hread : R.read p = .ok (.unreadable reason)) :
    ∃ opening, arriveBy R.read p = .ok (opening, none) ∧
      Event.result opening = unreadableResult p reason := by
  unfold arriveBy
  rw [hread]
  exact ⟨_, rfl, rfl⟩

theorem arriveBy_read {reading : Reading} (hread : R.read p = .ok (.read reading)) :
    ∃ opening, arriveBy R.read p = .ok (opening, some reading.entries) ∧
      Event.result opening = reading.result := by
  unfold arriveBy
  rw [hread]
  exact ⟨_, rfl, result_reading hread⟩

/-- A base that has been read is checked as its entries are by themselves, and the results of
the satellites follow if nothing was wrong with the base. -/
theorem result_checkFilesBy {opening : List Event} {reading : Reading}
    {cs : List Check.Contribution}
    (hbase : arriveBy R.read base = .ok (opening, some reading.entries))
    (hcs : Check.baseEntries policy base.text reading.entries = .ok cs) :
    (checkFilesBy R.read policy base satellites).map Check.resultOf =
      if Event.hasError (Check.baseEvents opening cs) then
        .ok ⟨[], Event.result (Check.baseEvents opening cs)⟩
      else (satellites.mapM (satelliteResult R ⟨policy, base.text, Check.itemsOf cs⟩)).map
        fun added =>
          let all := added.foldl Result.merge (Event.result (Check.baseEvents opening cs))
          ⟨if all.isValid then Check.itemsOf cs else [], all⟩ := by
  rw [checkFilesBy_read hbase]
  cases hhas : Event.hasError (Check.baseEvents opening cs) with
  | true =>
      rw [Check.runGroup_skipped hcs hhas]
      exact congrArg Except.ok
        ((resultOf_finish base.text _).trans (resultOf_skippedRun base.text _))
  | false =>
      rw [Check.runGroup_verified hcs hhas, List.mapM_map,
        ← funext (result_satellite (R := R) ⟨policy, base.text, Check.itemsOf cs⟩),
        Attempt.mapM_map_result]
      show _ = ((satellites.mapM (Check.arrival _ ∘ arriveSatelliteBy R.read)).map _).map _
      cases satellites.mapM (Check.arrival _ ∘ arriveSatelliteBy R.read) with
      | error failure => rfl
      | ok verified =>
          show Except.ok (Check.resultOf (Check.finish base.text _)) = Except.ok _
          dsimp only
          rw [resultOf_finish, resultOf_verifiedRun, foldl_merge_result, ← Event.result_append]

/-- The result of the base is that of its reading and that of its entries by themselves. -/
theorem result_base {opening : List Event} {reading : Reading} {cs : List Check.Contribution}
    (hopening : Event.result opening = reading.result) :
    reading.result.merge (Event.result (Check.baseEvents [] cs)) =
      Event.result (Check.baseEvents opening cs) := by
  rw [← hopening, ← Event.result_append]
  rfl

theorem resultOf_checkFilesBy :
    (checkFilesBy R.read policy base satellites).map Check.resultOf =
      readThenCheck R policy base satellites := by
  unfold readThenCheck
  cases hread : R.read base with
  | error failure =>
      have hbase : arriveBy R.read base = .error failure := by
        unfold arriveBy
        rw [hread]
        rfl
      rw [checkFilesBy_failed hbase]
      rfl
  | ok outcome =>
      cases outcome with
      | unreadable reason =>
          obtain ⟨opening, hbase, hopening⟩ := arriveBy_unreadable hread
          rw [checkFilesBy_unreadable hbase]
          exact congrArg (fun r => Except.ok (GroupResult.mk [] r)) hopening
      | read reading =>
          obtain ⟨opening, hbase, hopening⟩ := arriveBy_read hread
          show _ = Check.groupInto none (entriesOnly policy base reading) >>= _
          rw [groupInto_entriesOnly]
          cases hcs : Check.baseEntries policy base.text reading.entries with
          | error failure =>
              rw [checkFilesBy_read hbase, Check.runGroup_failed hcs]
              rfl
          | ok cs =>
              rw [result_checkFilesBy hbase hcs]
              show _ = if (reading.result.merge (Event.result (Check.baseEvents [] cs))).isValid
                then _ else _
              rw [result_base hopening, Event.isValid_result]
              cases hhas : Event.hasError (Check.baseEvents opening cs) with
              | true => rfl
              | false =>
                  -- The entries are clean by themselves, so they yield the same items.
                  have halone : Event.hasError (Check.baseEvents [] cs) = false := by
                    have hboth : Event.hasError (opening ++ Check.baseEvents [] cs) = false := hhas
                    rw [Event.hasError_append, Bool.or_eq_false_iff] at hboth
                    exact hboth.2
                  rw [halone]
                  show Except.map _ _ =
                    satellites.mapM (satelliteResult R ⟨policy, base.text, Check.itemsOf cs⟩) >>= _
                  cases satellites.mapM (satelliteResult R
                    ⟨policy, base.text, Check.itemsOf cs⟩) <;> rfl

/-- After a base with an error the run is over, whatever the satellites are and however they
could be read. -/
theorem run_of_endsWithBase {r : GroupResult} (h : EndsWithBase R policy base r) :
    ∃ run, Check.resultOf run = r ∧ ∀ (R' : Reader) (satellites : List Path),
      R'.read base = R.read base → checkFilesBy R'.read policy base satellites = .ok run := by
  cases h with
  | unreadable reason hread =>
      obtain ⟨opening, hbase, hopening⟩ := arriveBy_unreadable hread
      refine ⟨⟨[], opening⟩, congrArg (GroupResult.mk []) hopening, ?_⟩
      intro R' satellites hsame
      exact checkFilesBy_unreadable ((arriveBy_congr hsame).trans hbase)
  | invalid reading hread alone halone herror =>
      obtain ⟨opening, hbase, hopening⟩ := arriveBy_read hread
      rw [groupInto_entriesOnly] at halone
      obtain ⟨cs, hcs, hresult⟩ := Attempt.map_eq_ok.mp halone
      cases hresult
      rw [result_base hopening, Event.isValid_result, Bool.not_eq_false'] at herror
      refine ⟨Check.finish base.text
        (Check.skippedRun base.text (Check.baseEvents opening cs)), ?_, ?_⟩
      · rw [resultOf_finish, resultOf_skippedRun, ← result_base hopening]
      · intro R' satellites hsame
        rw [checkFilesBy_read ((arriveBy_congr hsame).trans hbase),
          Check.runGroup_skipped hcs herror]
        rfl

end Parts

/-- **Checking files is reading and then checking.** Whoever listens, the result is that of
reading each file and checking its entries. If there is an error in the base, as a document or
in its entries, the check ends with the result of the base; neither this result nor anything
the listener hears depends on the satellites, on their number or on what is read there. -/
theorem files_read_then_checked {σ : Type} (notice : σ → Event → σ) (listener : σ) (R : Reader)
    (policy : Policy) (base : Path) (satellites : List Path) :
    (filesInto notice R.read policy base satellites listener).map Prod.fst =
        readThenCheck R policy base satellites ∧
      ∀ r, EndsWithBase R policy base r → ∃ heard, ∀ (R' : Reader) (others : List Path),
        R'.read base = R.read base →
          filesInto notice R'.read policy base others listener = .ok (r, heard) := by
  constructor
  · rw [filesInto_eq, ← resultOf_checkFilesBy]
    cases checkFilesBy R.read policy base satellites <;> rfl
  · intro r hends
    obtain ⟨run, rfl, hrun⟩ := run_of_endsWithBase hends
    refine ⟨run.events.foldl notice listener, ?_⟩
    intro R' others hsame
    rw [filesInto_eq, hrun R' others hsame]
    rfl

/-! ## A missing satellite and a broken base -/

def greetingDocument (value : String) : List UInt8 :=
  ascii ("<root><data name=\"hi\">" ++ value ++ "</data></root>")

/-- A base with a stray node, a satellite with a malformed value, and a base without a value. -/
def greetingTree : FileTree where
  current := []
  files :=
    [(["a.resx"], greetingDocument "<value>Hi</value><note/>"),
      (["a.fr.resx"], greetingDocument "<value>\x7b</value>"),
      (["b.resx"], greetingDocument "<comment>-</comment>")]
  directories := []

/-- The satellite that is missing does not keep the next one from being verified. -/
def greetingResult : GroupResult where
  items := []
  result :=
    ⟨[(Finding.fileUnreadable "a.de.resx" "No such file or directory").asError
          (some "a.de.resx"),
        (Check.scanFinding "hi" ⟨.indexExpected, 1⟩).asError (some "a.fr.resx")],
      [(Finding.unexpectedNode "hi" "note").asWarning (some "a.resx")]⟩

def valuelessResult : GroupResult :=
  ⟨[], ⟨[(Finding.resourceValueMissing "hi").asError (some "b.resx")], []⟩⟩

/-- Keeps all events. -/
def keep (heard : List Event) (e : Event) : List Event :=
  heard ++ [e]

theorem files_read_then_checked_greeting :
    (filesInto keep (Reader.ofTree .bare greetingTree).read .strict ⟨.current, ["a.resx"]⟩
        [⟨.current, ["a.de.resx"]⟩, ⟨.current, ["a.fr.resx"]⟩] []).map Prod.fst =
          .ok greetingResult ∧
      EndsWithBase (Reader.ofTree .bare greetingTree) .strict ⟨.current, ["b.resx"]⟩
        valuelessResult ∧
      ∃ heard, ∀ (R' : Reader) (others : List Path),
        R'.read ⟨.current, ["b.resx"]⟩ =
            (Reader.ofTree .bare greetingTree).read ⟨.current, ["b.resx"]⟩ →
          filesInto keep R'.read .strict ⟨.current, ["b.resx"]⟩ others [] =
            .ok (valuelessResult, heard) := by
  have hends : EndsWithBase (Reader.ofTree .bare greetingTree) .strict ⟨.current, ["b.resx"]⟩
      valuelessResult :=
    .invalid ⟨[], valuelessResult.result⟩ (by decide +kernel) ⟨[], .empty⟩ (by decide +kernel)
      (by decide +kernel)
  refine ⟨?_, hends, (files_read_then_checked keep [] _ _ _ []).2 _ hends⟩
  rw [(files_read_then_checked keep [] _ _ _ _).1]
  decide +kernel

end Project

end ResourceAudit
