import ResourceAudit.Proofs.Check.Address
import ResourceAudit.Proofs.Check.Outlet

/-!
# Groups from their parts

What is reported about a group is made of traces. The trace of an entry is what its check
by itself reports, or one error if its name occurred before in the file. The traces of the
base entries come first, and the satellites add theirs if the base has no error
(`result_checkAlone`). A satellite is verified against the items of the base, so what it
adds does not depend on the other satellites (`group_decomposes`).
-/

namespace ResourceAudit.Check

/-! ## Traces -/

/-- What an entry of a file adds after the entries before it. -/
def trace (file : String) (check : Entry → Except Failure (List Diagnostic))
    (p : List Entry × Entry) : Except Failure (List Diagnostic) :=
  if p.2.name ∈ p.1.map Entry.name then
    .ok [(Finding.resourceNameDuplicated p.2.name).asError (some file)]
  else check p.2

/-- The traces of the entries of a file, in order. -/
def traces (file : String) (check : Entry → Except Failure (List Diagnostic))
    (entries : List Entry) : Except Failure (List (List Diagnostic)) :=
  (Entry.withEarlier entries).mapM (trace file check)

/-- What the check of a base entry by itself reports, addressed to the base file. -/
def entryTrace (policy : Policy) (baseFile : String) (e : Entry) :
    Except Failure (List Diagnostic) :=
  (entry policy none e).map fun out => out.diagnostics.map (Diagnostic.addressed (some baseFile))

/-- The item that a base entry by itself yields. -/
def itemAlone? (policy : Policy) (e : Entry) : Option Item :=
  match entry policy none e with
  | .ok out => out.item
  | .error _ => none

/-- What a satellite adds: each entry is verified as the only one of a satellite. -/
def satelliteTrace (ref : Reference) (s : Satellite) : Except Failure (List Diagnostic) :=
  (traces s.file (fun e => satellite ref ⟨s.file, [e]⟩) s.entries).map List.flatten

/-- To check the entries of a file by their marks is to trace them. -/
theorem mapM_markRepeats {file : String} {check : Entry → Except Failure (List Diagnostic)}
    {checkMarked : Entry × Bool → Except Failure (List Diagnostic)}
    (hrepeated : ∀ e, checkMarked (e, true) =
      .ok [(Finding.resourceNameDuplicated e.name).asError (some file)])
    (hfirst : ∀ e, checkMarked (e, false) = check e) (entries : List Entry) :
    (Entry.markRepeats entries).mapM checkMarked = traces file check entries := by
  unfold traces
  rw [Entry.markRepeats_eq, List.mapM_map]
  refine congrArg (List.mapM · (Entry.withEarlier entries)) (funext fun p => ?_)
  dsimp only [Function.comp_apply]
  unfold trace
  by_cases hname : p.2.name ∈ p.1.map Entry.name
  · rw [decide_eq_true hname, if_pos hname, hrepeated]
  · rw [decide_eq_false hname, if_neg hname, hfirst]

section Base

variable {policy : Policy} {baseFile : String} {entries : List Entry} {cs : List Contribution}

/-- The diagnostics of what the base entries contribute are their traces. -/
theorem traces_baseEntries (policy : Policy) (baseFile : String) (entries : List Entry) :
    (baseEntries policy baseFile entries).map (List.map fun c => Event.diagnostics c.events) =
      traces baseFile (entryTrace policy baseFile) entries := by
  unfold baseEntries
  rw [← Attempt.mapM_map_result]
  apply mapM_markRepeats
  · intro e
    rfl
  · intro e
    rw [baseEntry_unmarked, entry_addressed policy (some baseFile) none]
    unfold entryTrace
    cases entry policy none e with
    | error failure => rfl
    | ok out => exact congrArg Except.ok (diagnostics_contributionOf _ _)

/-- If no name is repeated, every base entry is checked. -/
theorem baseEntries_of_nodup (hnodup : (entries.map Entry.name).Nodup) :
    baseEntries policy baseFile entries =
      entries.mapM fun e => (entry policy (some baseFile) e).map (contributionOf baseFile e) := by
  unfold baseEntries
  rw [Entry.markRepeats_of_nodup hnodup, List.mapM_map]
  exact congrArg (List.mapM · entries) (funext fun e => baseEntry_unmarked e)

theorem item_of_contribution {e : Entry} {c : Contribution}
    (h : (entry policy (some baseFile) e).map (contributionOf baseFile e) = .ok c) :
    c.item = itemAlone? policy e := by
  rw [entry_addressed policy (some baseFile) none] at h
  unfold itemAlone?
  obtain ⟨out, hout, rfl⟩ := Attempt.map_eq_ok.mp h
  obtain ⟨alone, halone, rfl⟩ := Attempt.map_eq_ok.mp hout
  rw [halone, item_contributionOf]
  rfl

/-- The items of a clean base are those that its entries yield by themselves. -/
theorem itemsOf_of_isClean (h : baseEntries policy baseFile entries = .ok cs)
    (hclean : isClean (Event.diagnostics (baseEvents [] cs)) = true) :
    itemsOf cs = entries.filterMap (itemAlone? policy) := by
  rw [baseEntries_of_nodup (nodup_of_isClean h hclean)] at h
  have hall := Attempt.mapM_eq_ok.mp h
  clear h hclean
  induction hall with
  | nil => rfl
  | cons hentry _ ih =>
      unfold itemsOf at ih ⊢
      rw [List.filterMap_cons, List.filterMap_cons, item_of_contribution hentry, ih]

end Base

theorem satelliteEntries_eq_trace (ref : Reference) (s : Satellite) :
    satelliteEntries ref s = satelliteTrace ref s := by
  unfold satelliteEntries satelliteTrace
  refine congrArg (Except.map List.flatten) ?_
  apply mapM_markRepeats
  · intro e
    rfl
  · intro e
    rw [satellite_single]
    rfl

/-- Without repeated names a satellite is verified as a whole. -/
theorem satelliteEntries_of_nodup {ref : Reference} {s : Satellite}
    (hnodup : (s.entries.map Entry.name).Nodup) : satelliteEntries ref s = satellite ref s := by
  unfold satelliteEntries satellite
  rw [Entry.markRepeats_of_nodup hnodup, List.mapM_map]
  rfl

/-! ## Addresses -/

theorem file_of_traces {file : String} {check : Entry → Except Failure (List Diagnostic)}
    {entries : List Entry} {dss : List (List Diagnostic)}
    (hcheck : ∀ e ds, check e = .ok ds → ∀ d ∈ ds, d.file = some file)
    (h : traces file check entries = .ok dss) {d : Diagnostic} (hd : d ∈ dss.flatten) :
    d.file = some file := by
  obtain ⟨ds, hds, hd⟩ := List.mem_flatten.mp hd
  obtain ⟨p, -, hp⟩ := Attempt.exists_of_mem_result h hds
  unfold trace at hp
  split at hp
  · cases hp
    rw [List.mem_singleton.mp hd]
    rfl
  · exact hcheck p.2 ds hp d hd

theorem file_of_entryTrace {policy : Policy} {baseFile : String} {e : Entry}
    {ds : List Diagnostic} (h : entryTrace policy baseFile e = .ok ds) {d : Diagnostic}
    (hd : d ∈ ds) : d.file = some baseFile := by
  obtain ⟨out, -, rfl⟩ := Attempt.map_eq_ok.mp h
  obtain ⟨d, -, rfl⟩ := List.mem_map.mp hd
  exact Diagnostic.file_addressed _ d

theorem file_of_satelliteTrace {ref : Reference} {s : Satellite} {ds : List Diagnostic}
    (h : satelliteTrace ref s = .ok ds) {d : Diagnostic} (hd : d ∈ ds) :
    d.file = some s.file := by
  obtain ⟨dss, hdss, rfl⟩ := Attempt.map_eq_ok.mp h
  refine file_of_traces (fun e ds hds d hd => ?_) hdss hd
  rw [satellite_single] at hds
  exact file_of_localizedEntry hds hd

/-! ## Groups -/

/-- The traces of the base entries of a group. -/
def baseTraces (g : GroupInput) : Except Failure (List (List Diagnostic)) :=
  traces g.baseFile (entryTrace g.policy g.baseFile) g.entries

/-- What the satellites of a group are verified against. -/
def reference (g : GroupInput) : Reference :=
  ⟨g.policy, g.baseFile, g.entries.filterMap (itemAlone? g.policy)⟩

/-- The diagnostics of a group, made of its traces. -/
def groupTrace (g : GroupInput) : Except Failure (List Diagnostic) := do
  let base ← baseTraces g
  if isClean base.flatten then
    return base.flatten ++ (← g.satellites.mapM (satelliteTrace (reference g))).flatten
  else return base.flatten

variable {sink : Option Sink} {g : GroupInput} {base : List (List Diagnostic)}

theorem groupTrace_of_error (hbase : baseTraces g = .ok base)
    (herror : isClean base.flatten = false) : groupTrace g = .ok base.flatten := by
  unfold groupTrace
  rw [hbase]
  exact if_neg (Bool.eq_false_iff.mp herror)

theorem groupTrace_of_isClean (hbase : baseTraces g = .ok base)
    (hclean : isClean base.flatten = true) :
    groupTrace g = (g.satellites.mapM (satelliteTrace (reference g))).map fun dss =>
      base.flatten ++ dss.flatten := by
  unfold groupTrace
  rw [hbase]
  refine (if_pos hclean).trans ?_
  show (g.satellites.mapM (satelliteTrace (reference g)) >>= _) = _
  cases g.satellites.mapM (satelliteTrace (reference g)) <;> rfl

/-- **A group is made of its traces**, and fails exactly if one of them does. -/
theorem result_checkAlone (g : GroupInput) :
    (checkAlone g).map GroupRun.result = (groupTrace g).map Result.ofDiagnostics := by
  have htraces := traces_baseEntries g.policy g.baseFile g.entries
  unfold checkAlone
  cases hbase : baseEntries g.policy g.baseFile g.entries with
  | error failure =>
      rw [hbase] at htraces
      unfold groupTrace baseTraces
      rw [group_failed hbase, ← htraces]
      rfl
  | ok cs =>
      rw [hbase] at htraces
      have hflatten := diagnostics_baseEvents cs
      cases hclean : isClean (Event.diagnostics (baseEvents [] cs)) with
      | false =>
          rw [group_skipped hbase hclean,
            groupTrace_of_error htraces.symm (hflatten ▸ hclean), ← hflatten]
          show Except.ok (Result.ofDiagnostics _) = Except.ok (Result.ofDiagnostics _)
          rw [diagnostics_finish, diagnostics_skippedRun]
      | true =>
          rw [group_checked hbase hclean,
            groupTrace_of_isClean htraces.symm (hflatten ▸ hclean), ← hflatten,
            itemsOf_of_isClean hbase hclean, funext (satelliteEntries_eq_trace _)]
          unfold reference
          cases g.satellites.mapM (satelliteTrace _) with
          | error failure => rfl
          | ok dss =>
              show Except.ok (Result.ofDiagnostics _) = Except.ok (Result.ofDiagnostics _)
              rw [diagnostics_checkedRun]

theorem result_groupInto (sink : Option Sink) (g : GroupInput) :
    (groupInto sink g).map (fun out => out.1.result) =
      (groupTrace g).map Result.ofDiagnostics := by
  rw [groupInto_eq, ← result_checkAlone]
  cases checkAlone g <;> rfl

/-- No check fails: neither that of a base entry, nor, if satellites are looked at at all,
that of an entry of a satellite. -/
structure ChecksComplete (g : GroupInput) : Prop where
  base : ∃ base, baseTraces g = .ok base
  satellites : ∀ base, baseTraces g = .ok base → isClean base.flatten = true →
    ∀ s ∈ g.satellites, ∃ ds, satelliteTrace (reference g) s = .ok ds

theorem groupTrace_completes_iff : (∃ ds, groupTrace g = .ok ds) ↔ ChecksComplete g := by
  cases hbase : baseTraces g with
  | error failure =>
      refine iff_of_false ?_ ?_
      · unfold groupTrace
        rw [hbase]
        rintro ⟨ds, ⟨⟩⟩
      · rintro ⟨⟨base, h⟩, -⟩
        cases hbase.symm.trans h
  | ok base =>
      cases hclean : isClean base.flatten with
      | false =>
          refine iff_of_true ⟨_, groupTrace_of_error hbase hclean⟩ ⟨⟨base, hbase⟩, ?_⟩
          intro base' hbase' hclean'
          cases hbase.symm.trans hbase'
          cases hclean.symm.trans hclean'
      | true =>
          rw [groupTrace_of_isClean hbase hclean, Attempt.exists_map_iff, Attempt.exists_mapM_iff]
          constructor
          · intro hall
            exact ⟨⟨base, hbase⟩, fun _ _ _ => hall⟩
          · intro hcomplete
            exact hcomplete.satellites base hbase hclean

/-- What is reported about a group, from the traces of its base entries and what each of
its satellites adds. -/
structure Decomposes (g : GroupInput) (result : Result) (base : List (List Diagnostic))
    (added : Satellite → List Diagnostic) : Prop where
  base_traces : baseTraces g = .ok base
  base_file : ∀ d ∈ base.flatten, d.file = some g.baseFile
  satellite_traces : isClean base.flatten = true → ∀ s ∈ g.satellites,
    satelliteTrace (reference g) s = .ok (added s) ∧ ∀ d ∈ added s, d.file = some s.file
  result_eq : result = .ofDiagnostics
    (base.flatten ++ if isClean base.flatten then g.satellites.flatMap added else [])

/-- What a satellite adds; nothing if its verification fails. -/
def addedBy (ref : Reference) (s : Satellite) : List Diagnostic :=
  match satelliteTrace ref s with
  | .ok ds => ds
  | .error _ => []

theorem satelliteTrace_addedBy {ref : Reference} {s : Satellite}
    (h : ∃ ds, satelliteTrace ref s = .ok ds) : satelliteTrace ref s = .ok (addedBy ref s) := by
  obtain ⟨ds, hds⟩ := h
  unfold addedBy
  rw [hds]

theorem file_of_baseTraces (h : baseTraces g = .ok base) {d : Diagnostic} (hd : d ∈ base.flatten) :
    d.file = some g.baseFile :=
  file_of_traces (fun _ _ hds _ hd => file_of_entryTrace hds hd) h hd

/-- If no check fails, the group has a result, and it is made of the traces. -/
theorem exists_decomposition (sink : Option Sink) (h : ChecksComplete g)
    (hbase : baseTraces g = .ok base) :
    ∃ r after, groupInto sink g = .ok (r, after) ∧
      Decomposes g r.result base (addedBy (reference g)) := by
  have htraces : isClean base.flatten = true → ∀ s ∈ g.satellites,
      satelliteTrace (reference g) s = .ok (addedBy (reference g) s) := by
    intro hclean s hs
    exact satelliteTrace_addedBy (h.satellites base hbase hclean s hs)
  have hgroup : groupTrace g = .ok (base.flatten ++
      if isClean base.flatten then g.satellites.flatMap (addedBy (reference g)) else []) := by
    cases hclean : isClean base.flatten with
    | false =>
        rw [groupTrace_of_error hbase hclean]
        exact congrArg Except.ok (List.append_nil _).symm
    | true =>
        rw [groupTrace_of_isClean hbase hclean, Attempt.mapM_of_forall (htraces hclean)]
        rfl
  have hresult := result_groupInto sink g
  rw [hgroup] at hresult
  obtain ⟨⟨r, after⟩, hr, heq⟩ := Attempt.map_eq_ok.mp hresult
  refine ⟨r, after, hr, hbase, fun d => file_of_baseTraces hbase, ?_, heq⟩
  intro hclean s hs
  exact ⟨htraces hclean s hs, fun d => file_of_satelliteTrace (htraces hclean s hs)⟩

/-- **Groups decompose.** A group has a result exactly if none of its checks fails. What it
reports is then the traces of the base entries in order, followed, if these hold no error,
by what the satellites add in their order; and any of the satellites, in any order, add the
same in a group of their own. -/
theorem group_decomposes (sink : Option Sink) (g : GroupInput) :
    ((∃ out, groupInto sink g = .ok out) ↔ ChecksComplete g) ∧
      ∀ r after, groupInto sink g = .ok (r, after) → ∃ base added,
        Decomposes g r.result base added ∧
          ∀ satellites ⊆ g.satellites, ∃ r' after',
            groupInto sink { g with satellites := satellites } = .ok (r', after') ∧
              Decomposes { g with satellites := satellites } r'.result base added := by
  have hcompletes : (∃ out, groupInto sink g = .ok out) ↔ ChecksComplete g := by
    rw [← groupTrace_completes_iff, ← Attempt.exists_map_iff (f := Result.ofDiagnostics),
      ← result_groupInto sink g, Attempt.exists_map_iff]
  refine ⟨hcompletes, ?_⟩
  intro r after hr
  have hcomplete : ChecksComplete g := hcompletes.mp ⟨_, hr⟩
  obtain ⟨base, hbase⟩ := hcomplete.base
  have hany : ∀ satellites ⊆ g.satellites, ∃ r' after',
      groupInto sink { g with satellites := satellites } = .ok (r', after') ∧
        Decomposes { g with satellites := satellites } r'.result base
          (addedBy (reference g)) := by
    intro satellites hsubset
    -- Neither the base traces nor the reference mention the satellites.
    refine exists_decomposition sink ⟨⟨base, hbase⟩, ?_⟩ hbase
    intro base' hbase' hclean s hs
    exact hcomplete.satellites base' hbase' hclean s (hsubset hs)
  refine ⟨base, addedBy (reference g), ?_, hany⟩
  obtain ⟨r', after', hr', hdecomposes⟩ := hany g.satellites (List.Subset.refl _)
  cases hr.symm.trans hr'
  exact hdecomposes

def inboxGroup : GroupInput where
  policy := .strict
  baseFile := "Strings.resx"
  entries := [⟨"inbox", "{0} of {1}", some "{int unread, int total}", none⟩]
  satellites :=
    [⟨"Strings.de.resx",
        [⟨"inbox", "{0} von {1}", none, none⟩, ⟨"inbox", "{0}", none, none⟩]⟩,
      ⟨"Strings.fr.resx", [⟨"outbox", "{0}", none, none⟩]⟩]

def inboxResult : GroupResult :=
  ⟨[], [(Finding.resourceNameDuplicated "inbox").asError (some "Strings.de.resx")],
    [(Finding.satelliteOrphanResource "outbox" "Strings.fr.resx" "Strings.resx").asWarning
      (some "Strings.fr.resx")]⟩

/-- The repeated name in one satellite does not touch what the other one adds. -/
theorem group_decomposes_inbox :
    groupInto none inboxGroup = .ok (inboxResult, none) ∧ ∃ base added,
      Decomposes inboxGroup inboxResult.result base added ∧ ∃ r after,
        groupInto none { inboxGroup with satellites := inboxGroup.satellites.reverse } =
            .ok (r, after) ∧
          Decomposes { inboxGroup with satellites := inboxGroup.satellites.reverse } r.result
            base added := by
  have hrun : groupInto none inboxGroup = .ok (inboxResult, none) := by decide +kernel
  obtain ⟨base, added, hdecomposes, hany⟩ :=
    (group_decomposes none inboxGroup).2 inboxResult none hrun
  refine ⟨hrun, base, added, hdecomposes, hany _ ?_⟩
  exact List.reverse_subset.mpr (List.Subset.refl _)

end ResourceAudit.Check
