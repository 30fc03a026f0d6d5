import ResourceAudit.Proofs.Check.Completion
import ResourceAudit.Proofs.Markup.Encoding
import ResourceAudit.Proofs.Project.Files
import ResourceAudit.Proofs.Storage.Names

/-!
# Groups of a project

The check of a group reads the files of that group and nothing else of the tree
(`checkFiles_congr`), so what the files of the other groups hold does not matter to it. The
groups themselves are found by names alone (`run_eq_of_sameNames`).

A file that cannot be read is a finding. Only two contents of a file end the check of its
group, and with it that of the project: a document that names an encoding whose codec is of no
use, and a value with an overlong precision (`cause_of_stops`).
-/

namespace ResourceAudit

/-! ## What is discovered -/

/-- All files of a group. -/
def FileGroup.files (g : FileGroup) : List Path :=
  g.base :: g.satellites

/-- What is discovered does not depend on what files hold. -/
theorem Discovery.run_eq_of_sameNames {t t' : FileTree} (locales : Culture.Locales)
    (h : t.SameNames t') (paths : List Path) : run locales t paths = run locales t' paths := by
  have hfiles : filesAt t = filesAt t' := by
    funext p
    unfold filesAt
    rw [FileTree.isDirectory_congr h, FileTree.isFile_congr h, FileTree.filesBelow_congr h]
  have hmissing : missingPaths t paths = missingPaths t' paths := by
    unfold missingPaths
    simp only [FileTree.isDirectory_congr h, FileTree.isFile_congr h]
  unfold run expand
  rw [hfiles, hmissing]

namespace Project

/-! ## What a check reads -/

section Reads

variable {platform : Platform} {t t' : FileTree} {policy : Policy} {base : Path}
  {satellites : List Path}

theorem readResource_congr {p : Path} (h : t.read p = t'.read p) :
    readResource platform t p = readResource platform t' p := by
  unfold readResource
  rw [h]

/-- **A check reads the files of its group.** Trees that agree on them lead to the same
run. -/
theorem checkFiles_congr (h : ∀ p ∈ base :: satellites, t.read p = t'.read p) :
    checkFiles platform t policy base satellites =
      checkFiles platform t' policy base satellites :=
  checkFilesBy_congr fun p hp => readResource_congr (h p hp)

end Reads

/-! ## What ends a check -/

variable {platform : Platform}

/-- The document at a path names an encoding whose codec is of no use. -/
def Undecodable (platform : Platform) (t : FileTree) (p : Path) (f : Failure) : Prop :=
  ∃ bytes, t.read p = .ok bytes ∧ (Markup.Source.bytes bytes).Undecodable platform.codecs f

theorem readResource_eq_error_iff {t : FileTree} {p : Path} {f : Failure} :
    readResource platform t p = .error f ↔ Undecodable platform t p f := by
  unfold readResource Undecodable
  cases t.read p with
  | error error => simp
  | ok bytes =>
      unfold Reading.ofSource
      dsimp only
      rw [Attempt.map_eq_error, Markup.Source.parse_eq_error_iff]
      simp

/-- Whatever else a file holds, it can be read or is reported. -/
theorem arrive_eq_error_iff {t : FileTree} {p : Path} {f : Failure} :
    arrive platform t p = .error f ↔ Undecodable platform t p f := by
  rw [← readResource_eq_error_iff]
  unfold arrive arriveBy
  cases readResource platform t p with
  | error failure =>
      constructor
      · intro h
        cases h
        rfl
      · intro h
        cases h
        rfl
  | ok outcome => cases outcome <;> exact ⟨nofun, nofun⟩

theorem arriveSatellite_eq_error_iff {t : FileTree} {p : Path} {f : Failure} :
    arriveSatellite platform t p = .error f ↔ arrive platform t p = .error f := by
  unfold arriveSatellite arrive
  rw [arriveSatelliteBy_eq, Attempt.map_eq_error]

/-- Where the check of a group of files stops without a result: at a base that cannot be decoded,
or in the run over its entries and satellites. -/
inductive Stops (platform : Platform) (t : FileTree) (policy : Policy) (g : FileGroup) :
    Failure → Prop
  | base (f : Failure) (hbase : Undecodable platform t g.base f) : Stops platform t policy g f
  | run (opening : List Event) (entries : List Entry)
      (hbase : arrive platform t g.base = .ok (opening, some entries)) (f : Failure)
      (hrun : Check.Stops policy g.base.text opening entries
        (g.satellites.map (arriveSatellite platform t)) f) : Stops platform t policy g f

/-- The check of a group of files. -/
def checkGroup (platform : Platform) (t : FileTree) (policy : Policy) (g : FileGroup) :
    Except Failure GroupRun :=
  checkFiles platform t policy g.base g.satellites

section Stops

variable {t : FileTree} {policy : Policy} {g : FileGroup} {f : Failure}

theorem checkGroup_unread {failure : Failure} (hbase : arrive platform t g.base = .error failure) :
    checkGroup platform t policy g = .error failure :=
  checkFilesBy_failed hbase

theorem checkGroup_unreadable {opening : List Event}
    (hbase : arrive platform t g.base = .ok (opening, none)) :
    checkGroup platform t policy g = .ok ⟨[], opening⟩ :=
  checkFilesBy_unreadable hbase

theorem checkGroup_read {opening : List Event} {entries : List Entry}
    (hbase : arrive platform t g.base = .ok (opening, some entries)) :
    checkGroup platform t policy g =
      (Check.runGroup policy g.base.text opening entries
        (g.satellites.map (arriveSatellite platform t))).map (Check.finish g.base.text) :=
  checkFilesBy_read hbase

theorem stops_of_checkGroup (h : checkGroup platform t policy g = .error f) :
    Stops platform t policy g f := by
  cases hbase : arrive platform t g.base with
  | error failure =>
      rw [checkGroup_unread hbase] at h
      cases h
      exact .base _ (arrive_eq_error_iff.mp hbase)
  | ok met =>
      obtain ⟨opening, entries⟩ := met
      cases entries with
      | none =>
          rw [checkGroup_unreadable hbase] at h
          cases h
      | some entries =>
          rw [checkGroup_read hbase, Attempt.map_eq_error] at h
          exact .run opening entries hbase f (Check.stops_of_runGroup h)

theorem checkGroup_stops (h : Stops platform t policy g f) :
    ∃ f, checkGroup platform t policy g = .error f := by
  cases h with
  | base _ hbase => exact ⟨f, checkGroup_unread (arrive_eq_error_iff.mpr hbase)⟩
  | run opening entries hbase _ hrun =>
      obtain ⟨failure, hf⟩ := Check.runGroup_stops hrun
      refine ⟨failure, ?_⟩
      rw [checkGroup_read hbase]
      exact Attempt.map_eq_error.mpr hf

/-- The check of a group completes exactly if it stops nowhere. -/
theorem checkGroup_completes_iff :
    (∃ run, checkGroup platform t policy g = .ok run) ↔ ∀ f, ¬ Stops platform t policy g f :=
  Attempt.completes_iff (fun _ => stops_of_checkGroup) fun _ => checkGroup_stops

/-- What a file holds that can end the check of its group: a document that cannot be decoded, or an
entry with an overlong precision in its value. -/
inductive Cause (platform : Platform) (t : FileTree) (p : Path) : Failure → Prop
  | undecodable (f : Failure) (h : Undecodable platform t p f) : Cause platform t p f
  | overlong (opening : List Event) (entries : List Entry)
      (hread : arrive platform t p = .ok (opening, some entries)) (e : Entry) (he : e ∈ entries)
      (parameters : List Parameter) (n : Nat) (hlong : Check.OverlongUse parameters e.value n) :
      Cause platform t p (.precisionTooLong n)

theorem arrive_of_arriveSatellite {p : Path} {met : Check.Arrival} {s : Satellite}
    (h : arriveSatellite platform t p = .ok met) (hs : met.satellite = some s) :
    ∃ opening, arrive platform t p = .ok (opening, some s.entries) := by
  unfold arriveSatellite at h
  rw [arriveSatelliteBy_eq] at h
  obtain ⟨⟨opening, entries⟩, harrive, rfl⟩ := Attempt.map_eq_ok.mp h
  obtain ⟨entries, rfl, rfl⟩ := Option.map_eq_some_iff.mp hs
  exact ⟨opening, harrive⟩

/-- A stop of a group is caused by a file of the group. -/
theorem cause_of_stops (h : Stops platform t policy g f) :
    ∃ p ∈ g.files, Cause platform t p f := by
  cases h with
  | base _ hbase => exact ⟨g.base, List.mem_cons_self, .undecodable f hbase⟩
  | run opening entries hbase _ hrun =>
      cases hrun with
      | base e parameters n hfirst hlong =>
          exact ⟨g.base, List.mem_cons_self, .overlong opening entries hbase e
            (Entry.mem_of_mem_markRepeats hfirst) parameters n hlong.overlong⟩
      | arrival cs _ hclean _ hmem =>
          obtain ⟨p, hp, hfailed⟩ := List.mem_map.mp hmem
          exact ⟨p, List.mem_cons_of_mem g.base hp, .undecodable f
            (arrive_eq_error_iff.mp (arriveSatellite_eq_error_iff.mp hfailed))⟩
      | satellite cs _ hclean met hmem s hs e item n hfirst hlong =>
          obtain ⟨p, hp, hmet⟩ := List.mem_map.mp hmem
          obtain ⟨opening, hread⟩ := arrive_of_arriveSatellite hmet hs
          exact ⟨p, List.mem_cons_of_mem g.base hp, .overlong opening s.entries hread e
            (Entry.mem_of_mem_markRepeats hfirst) item.parameters n hlong.overlong⟩

end Stops

/-! ## Projects -/

section Check

variable {t : FileTree} {policy : Policy} {paths : List Path}

/-- The check of a project is the check of each of its groups. -/
theorem check_eq (t : FileTree) (policy : Policy) (paths : List Path) :
    check platform t policy paths =
      ((Discovery.run platform.locales t paths).groups.mapM fun g =>
        (checkGroup platform t policy g).map (CheckedGroup.mk g)).map
          (Outcome.mk (Discovery.run platform.locales t paths).events) := by
  have hgroup : (fun g => checkFiles platform t policy g.base g.satellites >>= fun run =>
      pure (CheckedGroup.mk g run)) =
        fun g => (checkGroup platform t policy g).map (CheckedGroup.mk g) := by
    funext g
    unfold checkGroup
    cases checkFiles platform t policy g.base g.satellites <;> rfl
  unfold check
  show ((Discovery.run platform.locales t paths).groups.mapM (fun g =>
    checkFiles platform t policy g.base g.satellites >>= fun run =>
      pure (CheckedGroup.mk g run)) >>= _) = _
  rw [hgroup]
  cases (Discovery.run platform.locales t paths).groups.mapM fun g =>
    (checkGroup platform t policy g).map (CheckedGroup.mk g) <;> rfl

/-- Every group found has a run, and there are no other runs. -/
theorem groups_of_check {o : Outcome} (h : check platform t policy paths = .ok o) :
    o.groups.map CheckedGroup.group = (Discovery.run platform.locales t paths).groups := by
  rw [check_eq] at h
  obtain ⟨cs, hcs, rfl⟩ := Attempt.map_eq_ok.mp h
  -- Each checked group carries the group it was made from.
  have hsame : List.Forall₂ (fun g (c : CheckedGroup) => g = c.group)
      (Discovery.run platform.locales t paths).groups cs := by
    refine (Attempt.mapM_eq_ok.mp hcs).imp ?_
    intro g c hc
    obtain ⟨run, -, rfl⟩ := Attempt.map_eq_ok.mp hc
    rfl
  rw [← List.forall₂_map_right_iff, List.forall₂_eq_eq_eq] at hsame
  exact hsame.symm

theorem run_of_mem {o : Outcome} (h : check platform t policy paths = .ok o) {c : CheckedGroup}
    (hc : c ∈ o.groups) : checkGroup platform t policy c.group = .ok c.run := by
  rw [check_eq] at h
  obtain ⟨cs, hcs, rfl⟩ := Attempt.map_eq_ok.mp h
  obtain ⟨g, -, hg⟩ := Attempt.exists_of_mem_result hcs hc
  obtain ⟨run, hrun, rfl⟩ := Attempt.map_eq_ok.mp hg
  exact hrun

theorem check_completes_iff :
    (∃ o, check platform t policy paths = .ok o) ↔
      ∀ g ∈ (Discovery.run platform.locales t paths).groups,
        ∀ f, ¬ Stops platform t policy g f := by
  rw [check_eq, Attempt.exists_map_iff, Attempt.exists_mapM_iff]
  refine forall₂_congr fun g _ => ?_
  rw [Attempt.exists_map_iff, checkGroup_completes_iff]

/-- A check without a result has come to the stop of a group. -/
theorem stops_of_check {f : Failure} (h : check platform t policy paths = .error f) :
    ∃ g ∈ (Discovery.run platform.locales t paths).groups, Stops platform t policy g f := by
  rw [check_eq, Attempt.map_eq_error] at h
  obtain ⟨g, hg, hfailed⟩ := Attempt.exists_of_mapM_eq_error h
  exact ⟨g, hg, stops_of_checkGroup (Attempt.map_eq_error.mp hfailed)⟩

end Check

/-- **Groups are isolated from each other.** The check of a project returns exactly if that
of no group stops, and then with one run for each group found; otherwise it ends with the failure of
a group that stops. A group stops only at a file of its own that cannot be decoded, or whose entries
have an overlong precision. Trees with the same names have the same groups; and if two trees
agree on the files of a group, its runs are the same, whatever the trees hold otherwise. -/
theorem check_isolated (platform : Platform) (t : FileTree) (policy : Policy)
    (paths : List Path) :
    ((∃ o, check platform t policy paths = .ok o) ↔
      ∀ g ∈ (Discovery.run platform.locales t paths).groups,
        ∀ f, ¬ Stops platform t policy g f) ∧
    (∀ f, check platform t policy paths = .error f →
      ∃ g ∈ (Discovery.run platform.locales t paths).groups, Stops platform t policy g f) ∧
    (∀ g f, Stops platform t policy g f → ∃ p ∈ g.files, Cause platform t p f) ∧
    ∀ o, check platform t policy paths = .ok o →
      o.groups.map CheckedGroup.group = (Discovery.run platform.locales t paths).groups ∧
      ∀ t' o', check platform t' policy paths = .ok o' →
        (t.SameNames t' → o'.groups.map CheckedGroup.group = o.groups.map CheckedGroup.group) ∧
        ∀ c ∈ o.groups, ∀ c' ∈ o'.groups, c'.group = c.group →
          (∀ p ∈ c.group.files, t.read p = t'.read p) → c'.run = c.run := by
  refine ⟨check_completes_iff, fun _ => stops_of_check, fun _ _ => cause_of_stops, ?_⟩
  intro o ho
  refine ⟨groups_of_check ho, ?_⟩
  intro t' o' ho'
  constructor
  · intro hnames
    rw [groups_of_check ho, groups_of_check ho', Discovery.run_eq_of_sameNames _ hnames]
  · intro c hc c' hc' hgroup hreads
    -- Both runs are the run of one group over what it reads, which is the same in both trees.
    have hsame : checkGroup platform t policy c.group = checkGroup platform t' policy c.group :=
      checkFiles_congr hreads
    have hrun := run_of_mem ho hc
    have hrun' := run_of_mem ho' hc'
    rw [hgroup, ← hsame, hrun] at hrun'
    exact (Except.ok.inj hrun').symm

/-! ## Two files side by side -/

def ascii (text : String) : List UInt8 :=
  text.toList.map fun c => UInt8.ofNat c.toNat

/-- An empty resource file next to one with the given text. -/
def sideBySide (text : String) : FileTree :=
  ⟨[], [(["a.resx"], ascii "<root/>"), (["b.resx"], ascii text)], []⟩

def here : Path := ⟨.current, []⟩

def soleGroup (name : String) : FileGroup := ⟨⟨.current, [name]⟩, []⟩

def emptyRun (file : String) : GroupRun :=
  ⟨[], [.log ⟨.debug, .reading, s!"Read 0 entries from {file}"⟩,
    Check.progress .info s!"Validated {file}: 0 item(s), 0 error(s), 0 warning(s)"]⟩

def unreadableRun (file reason : String) : GroupRun :=
  ⟨[], [Check.progress .warning s!"Cannot read {file}: {reason}",
    .report ((Finding.fileUnreadable file reason).asError (some file))]⟩

def sideBySideOutcome (run : GroupRun) : Outcome where
  discovery := [Discovery.log .info "Discovered 2 resource group(s)"]
  groups := [⟨soleGroup "a.resx", emptyRun "a.resx"⟩, ⟨soleGroup "b.resx", run⟩]

def cutShortRun : GroupRun :=
  unreadableRun "b.resx" "no element found: line 1, column 6"

/-- A file that is cut short is reported for its own group and leaves the other one alone. -/
theorem check_isolated_cutShort :
    check .bare (sideBySide "<root/>") .strict [here] =
        .ok (sideBySideOutcome (emptyRun "b.resx")) ∧
      check .bare (sideBySide "<root>") .strict [here] = .ok (sideBySideOutcome cutShortRun) ∧
      (sideBySide "<root/>").read ⟨.current, ["a.resx"]⟩ =
        (sideBySide "<root>").read ⟨.current, ["a.resx"]⟩ ∧
      ∀ c ∈ (sideBySideOutcome (emptyRun "b.resx")).groups,
        ∀ c' ∈ (sideBySideOutcome cutShortRun).groups,
          c'.group = c.group → c.group = soleGroup "a.resx" → c'.run = c.run := by
  have hwhole : check .bare (sideBySide "<root/>") .strict [here] =
      .ok (sideBySideOutcome (emptyRun "b.resx")) := by decide +kernel
  have hcut : check .bare (sideBySide "<root>") .strict [here] =
      .ok (sideBySideOutcome cutShortRun) := by decide +kernel
  have hread : (sideBySide "<root/>").read ⟨.current, ["a.resx"]⟩ =
      (sideBySide "<root>").read ⟨.current, ["a.resx"]⟩ := by decide +kernel
  refine ⟨hwhole, hcut, hread, ?_⟩
  intro c hc c' hc' hgroup hfirst
  have hpair := ((check_isolated .bare _ _ _).2.2.2 _ hwhole).2 _ _ hcut
  refine hpair.2 c hc c' hc' hgroup ?_
  intro p hp
  rw [hfirst] at hp
  cases List.mem_singleton.mp hp
  exact hread

def inUnknownEncoding : FileTree :=
  sideBySide "<?xml version=\"1.0\" encoding=\"nope\"?><root/>"

/-- A file in an encoding nobody knows leaves both groups without a result. -/
theorem unknown_encoding_ends_project :
    (Discovery.run Platform.bare.locales inUnknownEncoding [here]).groups =
        [soleGroup "a.resx", soleGroup "b.resx"] ∧
      check .bare inUnknownEncoding .strict [here] = .error (.unknownEncoding "nope") := by
  decide +kernel

end Project

end ResourceAudit
