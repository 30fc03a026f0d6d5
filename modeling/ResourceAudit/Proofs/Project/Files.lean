import ResourceAudit.Project.Files
import ResourceAudit.Proofs.Check.Group

/-!
# Runs over files

What the run over the files of a group can be, stated once: a failure to read the base, a
base that is unreadable, or the run over its entries. A run reads the files of its group and
no others.
-/

namespace ResourceAudit.Project

variable {read read' : Read} {policy : Policy} {base : Path} {satellites : List Path}

theorem arriveBy_congr {p : Path} (h : read p = read' p) : arriveBy read p = arriveBy read' p := by
  unfold arriveBy
  rw [h]

theorem arriveSatelliteBy_eq (read : Read) (p : Path) :
    arriveSatelliteBy read p = (arriveBy read p).map fun met =>
      ⟨met.1, met.2.map fun entries => ⟨p.text, entries⟩⟩ := by
  unfold arriveSatelliteBy
  cases arriveBy read p <;> rfl

theorem checkFilesBy_failed {failure : Failure} (hbase : arriveBy read base = .error failure) :
    checkFilesBy read policy base satellites = .error failure := by
  unfold checkFilesBy
  rw [hbase]
  rfl

theorem checkFilesBy_unreadable {opening : List Event}
    (hbase : arriveBy read base = .ok (opening, none)) :
    checkFilesBy read policy base satellites = .ok ⟨[], opening⟩ := by
  unfold checkFilesBy
  rw [hbase]
  rfl

theorem checkFilesBy_read {opening : List Event} {entries : List Entry}
    (hbase : arriveBy read base = .ok (opening, some entries)) :
    checkFilesBy read policy base satellites =
      (Check.runGroup policy base.text opening entries
        (satellites.map (arriveSatelliteBy read))).map (Check.finish base.text) := by
  unfold checkFilesBy
  rw [hbase]
  show (Check.runGroup policy base.text opening entries _ >>= _) = _
  cases Check.runGroup policy base.text opening entries
    (satellites.map (arriveSatelliteBy read)) <;> rfl

/-- **A check reads the files of its group.** If two ways of reading agree on them, the runs
are the same. -/
theorem checkFilesBy_congr (h : ∀ p ∈ base :: satellites, read p = read' p) :
    checkFilesBy read policy base satellites = checkFilesBy read' policy base satellites := by
  have hbase : arriveBy read base = arriveBy read' base :=
    arriveBy_congr (h base List.mem_cons_self)
  have hsatellites :
      satellites.map (arriveSatelliteBy read) = satellites.map (arriveSatelliteBy read') := by
    refine List.map_congr_left fun p hp => ?_
    unfold arriveSatelliteBy
    rw [arriveBy_congr (h p (List.mem_cons_of_mem base hp))]
  unfold checkFilesBy
  rw [hbase, hsatellites]

end ResourceAudit.Project
