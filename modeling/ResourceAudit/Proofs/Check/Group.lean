import ResourceAudit.Proofs.Check.Entry
import ResourceAudit.Proofs.Check.Satellite
import ResourceAudit.Proofs.Resource.Repeats

/-!
# Group runs

What a group run can be, stated once: a failure, a run that ends with the base, or one
that goes on to the satellites. `group_valid` says what a valid run has seen. In a clean
file no name is repeated, so all its entries were checked.
-/

namespace ResourceAudit.Check

variable {policy : Policy} {baseFile : String} {entries : List Entry} {run : GroupRun}

/-! ## Runs -/

/-- The events of a base file after those of reading it. -/
def baseEvents (opening : List Event) (cs : List Contribution) : List Event :=
  opening ++ (cs.map Contribution.events).flatten

def itemsOf (cs : List Contribution) : List Item :=
  cs.filterMap Contribution.item

/-- The run of a group whose base has an error. -/
def skippedRun (baseFile : String) (base : List Event) : GroupRun :=
  ⟨[], base ++ [progress .info s!"Skipping satellites of {baseFile}: base file has errors"]⟩

/-- The run of a group whose satellites were verified. -/
def verifiedRun (items : List Item) (events : List Event) : GroupRun :=
  ⟨if Event.hasError events then [] else items, events⟩

section Run

variable {opening : List Event} {arrivals : List (Except Failure Arrival)}
  {cs : List Contribution}

theorem runGroup_failed {failure : Failure}
    (hbase : baseEntries policy baseFile entries = .error failure) :
    runGroup policy baseFile opening entries arrivals = .error failure := by
  unfold runGroup
  rw [hbase]
  rfl

/-- An error of the base ends the run. -/
theorem runGroup_skipped (hbase : baseEntries policy baseFile entries = .ok cs)
    (herror : Event.hasError (baseEvents opening cs) = true) :
    runGroup policy baseFile opening entries arrivals =
      .ok (skippedRun baseFile (baseEvents opening cs)) := by
  unfold runGroup
  rw [hbase]
  exact if_pos herror

/-- Without an error of the base all satellites are verified against its items. -/
theorem runGroup_verified (hbase : baseEntries policy baseFile entries = .ok cs)
    (hclean : Event.hasError (baseEvents opening cs) = false) :
    runGroup policy baseFile opening entries arrivals =
      (arrivals.mapM (arrival ⟨policy, baseFile, itemsOf cs⟩)).map fun verified =>
        verifiedRun (itemsOf cs) (baseEvents opening cs ++ verified.flatten) := by
  unfold runGroup
  rw [hbase]
  refine (if_neg (Bool.eq_false_iff.mp hclean)).trans ?_
  show (arrivals.mapM (arrival ⟨policy, baseFile, itemsOf cs⟩) >>= _) = _
  cases arrivals.mapM (arrival ⟨policy, baseFile, itemsOf cs⟩) <;> rfl

end Run

/-! ## Base entries -/

/-- What an entry that is checked contributes. -/
def contributionOf (baseFile : String) (e : Entry) (out : EntryOutcome) : Contribution :=
  match out.item with
  | some i => ⟨some i, out.diagnostics.map Event.report⟩
  | none =>
      ⟨none, out.diagnostics.map Event.report ++
        [progress .debug s!"Rejected {e.name} in {baseFile}"]⟩

theorem item_contributionOf (e : Entry) (out : EntryOutcome) :
    (contributionOf baseFile e out).item = out.item := by
  unfold contributionOf
  split <;> simp_all

theorem diagnostics_contributionOf (e : Entry) (out : EntryOutcome) :
    Event.diagnostics (contributionOf baseFile e out).events = out.diagnostics := by
  unfold contributionOf
  split
  · exact Event.diagnostics_map_report _
  · rw [Event.diagnostics_append, Event.diagnostics_map_report]
    exact List.append_nil _

theorem baseEntry_unmarked (e : Entry) :
    baseEntry policy baseFile (e, false) =
      (entry policy (some baseFile) e).map (contributionOf baseFile e) := by
  show (entry policy (some baseFile) e >>= _) = _
  cases entry policy (some baseFile) e with
  | error f => rfl
  | ok out =>
      obtain ⟨item, ds⟩ := out
      cases item <;> rfl

theorem unmarked_of_baseEntry {m : Entry × Bool} {c : Contribution}
    (h : baseEntry policy baseFile m = .ok c)
    (hclean : isClean (Event.diagnostics c.events) = true) : m.2 = false := by
  by_contra hmarked
  rw [Bool.not_eq_false] at hmarked
  unfold baseEntry at h
  rw [if_pos hmarked] at h
  cases h
  exact Bool.noConfusion hclean

theorem diagnostics_baseEvents (cs : List Contribution) :
    Event.diagnostics (baseEvents [] cs) =
      (cs.map fun c => Event.diagnostics c.events).flatten := by
  unfold baseEvents
  rw [List.nil_append, Event.diagnostics_flatten, List.map_map]
  rfl

theorem isClean_baseEvents {cs : List Contribution} :
    isClean (Event.diagnostics (baseEvents [] cs)) = true ↔
      ∀ c ∈ cs, isClean (Event.diagnostics c.events) = true := by
  rw [diagnostics_baseEvents, isClean_flatten]
  exact List.forall_mem_map

/-- A clean base has no repeated name. -/
theorem nodup_of_isClean {cs : List Contribution}
    (h : baseEntries policy baseFile entries = .ok cs)
    (hclean : isClean (Event.diagnostics (baseEvents [] cs)) = true) :
    (entries.map Entry.name).Nodup := by
  refine Entry.unmarked_iff.mp ?_
  intro m hm
  obtain ⟨c, hc, hentry⟩ := Attempt.exists_of_mem h hm
  exact unmarked_of_baseEntry hentry (isClean_baseEvents.mp hclean c hc)

/-- An item of the base was yielded by an entry of its name. -/
theorem exists_entry_of_item {cs : List Contribution}
    (h : baseEntries policy baseFile entries = .ok cs) {i : Item} (hi : i ∈ itemsOf cs) :
    ∃ e ∈ entries, ∃ out, entry policy (some baseFile) e = .ok out ∧ out.item = some i := by
  obtain ⟨c, hc, hitem⟩ := List.mem_filterMap.mp hi
  obtain ⟨⟨e, repeated⟩, hm, hentry⟩ := Attempt.exists_of_mem_result h hc
  have he : e ∈ entries := Entry.mem_of_mem_markRepeats hm
  cases repeated with
  | true =>
      cases hentry
      cases hitem
  | false =>
      rw [baseEntry_unmarked] at hentry
      obtain ⟨out, hout, rfl⟩ := Attempt.map_eq_ok.mp hentry
      rw [item_contributionOf] at hitem
      exact ⟨e, he, out, hout, hitem⟩

theorem name_of_baseEntry {m : Entry × Bool} {c : Contribution} {i : Item}
    (h : baseEntry policy baseFile m = .ok c) (hi : c.item = some i) : i.name = m.1.name := by
  obtain ⟨e, repeated⟩ := m
  cases repeated with
  | true =>
      cases h
      cases hi
  | false =>
      rw [baseEntry_unmarked] at h
      obtain ⟨out, hout, rfl⟩ := Attempt.map_eq_ok.mp h
      rw [item_contributionOf] at hi
      exact name_of_entry hout hi

/-- The names of the items stand in the order of the entries. -/
theorem sublist_names {cs : List Contribution}
    (h : baseEntries policy baseFile entries = .ok cs) :
    ((itemsOf cs).map Item.name).Sublist (entries.map Entry.name) := by
  have hnames : ((Entry.markRepeats entries).map Prod.fst).map Entry.name =
      entries.map Entry.name := by
    rw [Entry.map_fst_markRepeats]
  rw [← hnames, List.map_map]
  have hall := Attempt.mapM_eq_ok.mp h
  clear h hnames
  generalize Entry.markRepeats entries = ms at hall ⊢
  -- An entry that yields no item only drops out of the order.
  induction hall with
  | nil => exact List.Sublist.slnil
  | @cons m c ms cs hmc _ ih =>
      rw [itemsOf, List.filterMap_cons]
      cases hitem : c.item with
      | none => exact ih.cons _
      | some i =>
          rw [List.map_cons, List.map_cons, name_of_baseEntry hmc hitem]
          exact ih.cons_cons _

/-! ## Satellite entries -/

/-- In a clean satellite every entry was verified, and what was reported about it is
part of what was reported about the satellite. -/
theorem localizedEntry_of_isClean {ref : Reference} {s : Satellite} {ds : List Diagnostic}
    (h : satelliteEntries ref s = .ok ds) (hclean : isClean ds = true) {e : Entry}
    (he : e ∈ s.entries) : ∃ es, localizedEntry ref s.file e = .ok es ∧ es ⊆ ds := by
  obtain ⟨dss, hdss, rfl⟩ := Attempt.map_eq_ok.mp h
  obtain ⟨repeated, hm⟩ := Entry.exists_mark he
  obtain ⟨es, hes, hentry⟩ := Attempt.exists_of_mem hdss hm
  have hsubset : es ⊆ dss.flatten := fun d hd => List.mem_flatten_of_mem hes hd
  cases repeated with
  | true =>
      cases hentry
      exact absurd (isClean_flatten.mp hclean _ hes) (by simp)
  | false => exact ⟨es, hentry, hsubset⟩

/-! ## Groups that have been read -/

theorem diagnostics_finish (run : GroupRun) :
    Event.diagnostics (finish baseFile run).events = Event.diagnostics run.events := by
  unfold finish
  rw [Event.diagnostics_append]
  exact List.append_nil _

theorem mapM_arrival (ref : Reference) (satellites : List Satellite) :
    (satellites.map fun s => (.ok ⟨[], some s⟩ : Except Failure Arrival)).mapM (arrival ref) =
      (satellites.mapM (satelliteEntries ref)).map (List.map (List.map Event.report)) := by
  rw [List.mapM_map, ← Attempt.mapM_map_result]
  refine congrArg (List.mapM · satellites) (funext fun s => ?_)
  show (satelliteEntries ref s >>= _) = _
  cases satelliteEntries ref s <;> rfl

theorem diagnostics_reports (dss : List (List Diagnostic)) :
    Event.diagnostics (dss.map (List.map Event.report)).flatten = dss.flatten := by
  rw [Event.diagnostics_flatten, List.map_map]
  refine congrArg List.flatten ((List.map_congr_left ?_).trans (List.map_id _))
  intro ds _
  exact Event.diagnostics_map_report ds

theorem diagnostics_skippedRun (base : List Event) :
    Event.diagnostics (skippedRun baseFile base).events = Event.diagnostics base := by
  unfold skippedRun
  rw [Event.diagnostics_append]
  exact List.append_nil _

/-- The run of a group whose satellites reported the given diagnostics. -/
def checkedRun (baseFile : String) (cs : List Contribution) (dss : List (List Diagnostic)) :
    GroupRun :=
  finish baseFile (verifiedRun (itemsOf cs)
    (baseEvents [] cs ++ (dss.map (List.map Event.report)).flatten))

theorem diagnostics_checkedRun (cs : List Contribution) (dss : List (List Diagnostic)) :
    Event.diagnostics (checkedRun baseFile cs dss).events =
      Event.diagnostics (baseEvents [] cs) ++ dss.flatten := by
  unfold checkedRun
  rw [diagnostics_finish]
  unfold verifiedRun
  rw [Event.diagnostics_append, diagnostics_reports]

/-- A run exposes the items of its base unless something was wrong. -/
theorem items_checkedRun {cs : List Contribution} {dss : List (List Diagnostic)}
    (hvalid : (checkedRun baseFile cs dss).isValid = true) :
    (checkedRun baseFile cs dss).items = itemsOf cs := by
  rw [GroupRun.isValid_eq_isClean, diagnostics_checkedRun] at hvalid
  refine if_neg ?_
  rw [Event.hasError_eq_not_isClean, Event.diagnostics_append, diagnostics_reports, hvalid]
  decide

section Group

variable {satellites : List Satellite} {cs : List Contribution}

theorem group_failed {failure : Failure}
    (hbase : baseEntries policy baseFile entries = .error failure) :
    group policy baseFile entries satellites = .error failure := by
  unfold group
  rw [runGroup_failed hbase]
  rfl

theorem group_skipped (hbase : baseEntries policy baseFile entries = .ok cs)
    (herror : isClean (Event.diagnostics (baseEvents [] cs)) = false) :
    group policy baseFile entries satellites =
      .ok (finish baseFile (skippedRun baseFile (baseEvents [] cs))) := by
  have hhas : Event.hasError (baseEvents [] cs) = true := by
    rw [Event.hasError_eq_not_isClean, herror]
    rfl
  unfold group
  rw [runGroup_skipped hbase hhas]
  rfl

theorem group_checked (hbase : baseEntries policy baseFile entries = .ok cs)
    (hclean : isClean (Event.diagnostics (baseEvents [] cs)) = true) :
    group policy baseFile entries satellites =
      (satellites.mapM (satelliteEntries ⟨policy, baseFile, itemsOf cs⟩)).map
        (checkedRun baseFile cs) := by
  have hhas : Event.hasError (baseEvents [] cs) = false := by
    rw [Event.hasError_eq_not_isClean, hclean]
    rfl
  unfold group
  rw [runGroup_verified hbase hhas, mapM_arrival]
  cases satellites.mapM (satelliteEntries ⟨policy, baseFile, itemsOf cs⟩) <;> rfl

/-- **A valid run.** The base entries and the satellites were all checked without an
error, and the run exposes the items of the base. -/
theorem group_valid (h : group policy baseFile entries satellites = .ok run)
    (hvalid : run.isValid = true) :
    ∃ cs dss, baseEntries policy baseFile entries = .ok cs ∧
      isClean (Event.diagnostics (baseEvents [] cs)) = true ∧
      satellites.mapM (satelliteEntries ⟨policy, baseFile, itemsOf cs⟩) = .ok dss ∧
      isClean dss.flatten = true ∧ run.items = itemsOf cs ∧
      Event.diagnostics run.events = Event.diagnostics (baseEvents [] cs) ++ dss.flatten := by
  cases hbase : baseEntries policy baseFile entries with
  | error failure =>
      rw [group_failed hbase] at h
      cases h
  | ok cs =>
      cases hclean : isClean (Event.diagnostics (baseEvents [] cs)) with
      | false =>
          rw [group_skipped hbase hclean] at h
          cases h
          rw [GroupRun.isValid_eq_isClean, diagnostics_finish, diagnostics_skippedRun,
            hclean] at hvalid
          exact Bool.noConfusion hvalid
      | true =>
          rw [group_checked hbase hclean] at h
          obtain ⟨dss, hdss, rfl⟩ := Attempt.map_eq_ok.mp h
          have hitems := items_checkedRun hvalid
          rw [GroupRun.isValid_eq_isClean, diagnostics_checkedRun, isClean_append,
            Bool.and_eq_true] at hvalid
          exact ⟨cs, dss, rfl, hclean, hdss, hvalid.2, hitems, diagnostics_checkedRun cs dss⟩

end Group

end ResourceAudit.Check
