import ResourceAudit.Project.Discovery
import ResourceAudit.Proofs.Collection.Keyed
import ResourceAudit.Proofs.Storage.Order

/-!
# What becomes of discovered files

Every file that paths stand for is the base of a group, a satellite of a group, or named in
a warning, and nothing of it happens twice. There is one exception: of several bases with
the same directory and stem only the last in path order stands, and the others occur nowhere
(`Discovery.occurrences_of_hidden`). Bases of one key differ in their suffix, as `S.resx` and
`S.RESX` do.
-/

namespace ResourceAudit

namespace Discovery

variable {locales : Culture.Locales}

/-! ## Bases -/

/-- A base with a later base of the same key. -/
def Hidden (locales : Culture.Locales) (files : List Path) (file : Path) : Prop :=
  isSatellite locales file = false ∧
    ∃ other ∈ files, isSatellite locales other = false ∧
      keyOf locales other = keyOf locales file ∧ file < other

theorem map_base_groupsOf (files : List Path) :
    (groupsOf locales files).map FileGroup.base =
      Ascending.ofList ((bases locales files).map Prod.snd) := by
  unfold groupsOf
  rw [List.map_map]
  exact List.map_id _

theorem nodup_groupBases (files : List Path) :
    ((groupsOf locales files).map FileGroup.base).Nodup := by
  rw [map_base_groupsOf]
  exact Path.nodup_of_ascending (Ascending.pairwise_ofList _)

/-- The satellites of a key among the files. -/
def satellitesOf (locales : Culture.Locales) (files : List Path) (key : Key) : List Path :=
  Keyed.written (keyOf locales) (files.filter (isSatellite locales)) key

theorem mem_satellitesOf {files : List Path} {key : Key} {file : Path} :
    file ∈ satellitesOf locales files key ↔
      file ∈ files ∧ isSatellite locales file = true ∧ keyOf locales file = key := by
  unfold satellitesOf
  rw [Keyed.mem_written, List.mem_filter, and_assoc]

/-- A file has one key, so it is a satellite of one key at most. -/
theorem nodup_flatMap_satellitesOf {files : List Path} {ks : List Key} (h : files.Nodup)
    (hks : ks.Nodup) : (ks.flatMap (satellitesOf locales files)).Nodup := by
  refine List.nodup_flatMap.mpr ⟨fun key _ => (h.filter _).filter _, ?_⟩
  refine hks.imp ?_
  intro key key' hne file hfile hfile'
  exact hne ((mem_satellitesOf.mp hfile).2.2.symm.trans (mem_satellitesOf.mp hfile').2.2)

theorem satellites_groupsOf (files : List Path) :
    (groupsOf locales files).flatMap FileGroup.satellites =
      (((groupsOf locales files).map FileGroup.base).map (keyOf locales)).flatMap
        (satellitesOf locales files) := by
  rw [map_base_groupsOf]
  unfold groupsOf
  rw [List.flatMap_map, List.flatMap_map]
  exact List.flatMap_congr fun base _ =>
    Keyed.getD_get?_gather (keyOf locales) (files.filter (isSatellite locales)) (keyOf locales base)

theorem get?_satellites_iff {files : List Path} {key : Key} {found : List Path} :
    Keyed.get? key (satellites locales files) = some found ↔
      found = satellitesOf locales files key ∧ satellitesOf locales files key ≠ [] := by
  have hgather : satellites locales files =
      Keyed.gather (keyOf locales) (files.filter (isSatellite locales)) := rfl
  rw [hgather, Keyed.get?_gather]
  show (if satellitesOf locales files key = [] then none
    else some (satellitesOf locales files key)) = _ ↔ _
  split
  · rename_i hnil
    exact ⟨nofun, fun hfound => absurd hnil hfound.2⟩
  · rename_i hne
    rw [Option.some.injEq, eq_comm]
    exact (and_iff_left hne).symm

theorem orphans_eq (files : List Path) :
    orphans locales files =
      ((Keyed.keys (satellites locales files)).filter fun key =>
        (Keyed.get? key (bases locales files)).isNone).flatMap (satellitesOf locales files) := by
  have hnodup : (Keyed.keys (satellites locales files)).Nodup :=
    Keyed.nodup_keys_gather (keyOf locales) _
  unfold orphans Keyed.keys
  rw [List.filter_map, List.flatMap_map]
  refine List.flatMap_congr ?_
  rintro ⟨key, found⟩ hmem
  have hget := (Keyed.mem_iff_get? hnodup).mp (List.mem_of_mem_filter hmem)
  exact (get?_satellites_iff.mp hget).1

/-- A satellite is warned about exactly if its key has no base. -/
theorem mem_orphans_iff {files : List Path} {file : Path} :
    file ∈ orphans locales files ↔
      file ∈ files ∧ isSatellite locales file = true ∧
        Keyed.get? (keyOf locales file) (bases locales files) = none := by
  have hnodup : (Keyed.keys (satellites locales files)).Nodup :=
    Keyed.nodup_keys_gather (keyOf locales) _
  rw [orphans_eq, List.mem_flatMap]
  constructor
  · rintro ⟨key, hkey, hfile⟩
    obtain ⟨hmem, hsatellite, rfl⟩ := mem_satellitesOf.mp hfile
    exact ⟨hmem, hsatellite, Option.isNone_iff_eq_none.mp (List.mem_filter.mp hkey).2⟩
  · rintro ⟨hmem, hsatellite, hnone⟩
    have hfile : file ∈ satellitesOf locales files (keyOf locales file) :=
      mem_satellitesOf.mpr ⟨hmem, hsatellite, rfl⟩
    have hget : Keyed.get? (keyOf locales file) (satellites locales files) =
        some (satellitesOf locales files (keyOf locales file)) :=
      get?_satellites_iff.mpr ⟨rfl, List.ne_nil_of_mem hfile⟩
    have hkey : keyOf locales file ∈ Keyed.keys (satellites locales files) :=
      List.mem_map.mpr ⟨_, (Keyed.mem_iff_get? hnodup).mpr hget, rfl⟩
    exact ⟨keyOf locales file,
      List.mem_filter.mpr ⟨hkey, Option.isNone_iff_eq_none.mpr hnone⟩, hfile⟩

section Files

variable {files : List Path} (h : files.Pairwise (· < ·)) {file : Path} {key : Key}

include h

/-- The base of a key is the one base file of that key that is not hidden. -/
theorem get?_bases_iff :
    Keyed.get? key (bases locales files) = some file ↔
      file ∈ files ∧ isSatellite locales file = false ∧ keyOf locales file = key ∧
        ¬ Hidden locales files file := by
  -- The base of a key was written last, and the files are written in ascending order.
  have hindex : bases locales files =
      Keyed.index (keyOf locales) (files.filter (!isSatellite locales ·)) := rfl
  have hascending :
      (Keyed.written (keyOf locales) (files.filter (!isSatellite locales ·)) key).Pairwise
        (· < ·) :=
    (h.filter _).filter _
  have hmem : ∀ p,
      p ∈ Keyed.written (keyOf locales) (files.filter (!isSatellite locales ·)) key ↔
        p ∈ files ∧ isSatellite locales p = false ∧ keyOf locales p = key := by
    intro p
    rw [Keyed.mem_written, List.mem_filter, Bool.not_eq_true', and_assoc]
  rw [hindex, Keyed.get?_index, Path.getLast?_eq_some_iff hascending]
  simp only [hmem]
  constructor
  · rintro ⟨⟨hfile, hbase, rfl⟩, htop⟩
    refine ⟨hfile, hbase, rfl, ?_⟩
    rintro ⟨-, other, hother, hbase', hkey, hlt⟩
    exact htop other ⟨hother, hbase', hkey⟩ hlt
  · rintro ⟨hfile, hbase, rfl, hstands⟩
    refine ⟨⟨hfile, hbase, rfl⟩, ?_⟩
    rintro other ⟨hother, hbase', hkey⟩ hlt
    exact hstands ⟨hbase, other, hother, hbase', hkey, hlt⟩

theorem mem_bases_iff :
    file ∈ (bases locales files).map Prod.snd ↔
      file ∈ files ∧ isSatellite locales file = false ∧ ¬ Hidden locales files file := by
  have hnodup : (Keyed.keys (bases locales files)).Nodup := Keyed.nodup_keys_index (keyOf locales) _
  rw [List.mem_map]
  constructor
  · rintro ⟨⟨key, base⟩, hmem, rfl⟩
    obtain ⟨hfile, hbase, -, hstands⟩ :=
      (get?_bases_iff h).mp ((Keyed.mem_iff_get? hnodup).mp hmem)
    exact ⟨hfile, hbase, hstands⟩
  · rintro ⟨hfile, hbase, hstands⟩
    have hget := (get?_bases_iff h).mpr ⟨hfile, hbase, rfl, hstands⟩
    exact ⟨(keyOf locales file, file), (Keyed.mem_iff_get? hnodup).mpr hget, rfl⟩

theorem mem_groupBases_iff :
    file ∈ (groupsOf locales files).map FileGroup.base ↔
      file ∈ files ∧ isSatellite locales file = false ∧ ¬ Hidden locales files file := by
  have hfiles : ∀ p ∈ (bases locales files).map Prod.snd, p ∈ files := fun p hp =>
    ((mem_bases_iff h).mp hp).1
  have hcomparable := Path.comparable_of_ascending h
  rw [map_base_groupsOf, ← mem_bases_iff h]
  exact Ascending.mem_ofList_of_comparable fun p hp q hq =>
    hcomparable p (hfiles p hp) q (hfiles q hq)

/-! ## Satellites -/

/-- A satellite is verified exactly if its key has a base. -/
theorem mem_groupSatellites_iff :
    file ∈ (groupsOf locales files).flatMap FileGroup.satellites ↔
      file ∈ files ∧ isSatellite locales file = true ∧
        Keyed.get? (keyOf locales file) (bases locales files) ≠ none := by
  rw [satellites_groupsOf, List.mem_flatMap]
  constructor
  · rintro ⟨key, hkey, hfile⟩
    obtain ⟨base, hbase, rfl⟩ := List.mem_map.mp hkey
    obtain ⟨hmem, hsatellite, hsame⟩ := mem_satellitesOf.mp hfile
    obtain ⟨hbasemem, hnone, hstands⟩ := (mem_groupBases_iff h).mp hbase
    refine ⟨hmem, hsatellite, ?_⟩
    rw [hsame, (get?_bases_iff h).mpr ⟨hbasemem, hnone, rfl, hstands⟩]
    exact Option.some_ne_none base
  · rintro ⟨hmem, hsatellite, hbase⟩
    obtain ⟨base, hbase⟩ := Option.ne_none_iff_exists'.mp hbase
    obtain ⟨hbasemem, hnone, hsame, hstands⟩ := (get?_bases_iff h).mp hbase
    have hgroup := (mem_groupBases_iff h).mpr ⟨hbasemem, hnone, hstands⟩
    exact ⟨keyOf locales base, List.mem_map_of_mem hgroup,
      mem_satellitesOf.mpr ⟨hmem, hsatellite, hsame.symm⟩⟩

/-- No two groups have bases of one key. -/
theorem nodup_groupKeys :
    (((groupsOf locales files).map FileGroup.base).map (keyOf locales)).Nodup := by
  refine List.Nodup.map_on ?_ (nodup_groupBases files)
  intro p hp q hq hkey
  -- Two such bases would both be the one base of their key.
  obtain ⟨hpmem, hpbase, hpstands⟩ := (mem_groupBases_iff h).mp hp
  obtain ⟨hqmem, hqbase, hqstands⟩ := (mem_groupBases_iff h).mp hq
  have hgetp := (get?_bases_iff h).mpr ⟨hpmem, hpbase, hkey, hpstands⟩
  have hgetq := (get?_bases_iff h).mpr ⟨hqmem, hqbase, rfl, hqstands⟩
  exact Option.some.inj (hgetp.symm.trans hgetq)

theorem nodup_groupSatellites : ((groupsOf locales files).flatMap FileGroup.satellites).Nodup := by
  rw [satellites_groupsOf]
  exact nodup_flatMap_satellitesOf (Path.nodup_of_ascending h) (nodup_groupKeys h)

theorem nodup_orphans : (orphans locales files).Nodup := by
  have hkeys : (Keyed.keys (satellites locales files)).Nodup :=
    Keyed.nodup_keys_gather (keyOf locales) _
  rw [orphans_eq]
  exact nodup_flatMap_satellitesOf (Path.nodup_of_ascending h) (hkeys.filter _)

end Files

/-! ## Every file -/

/-- How often a file occurs: as the base of a group, as a satellite of a group, and among
the files that are warned about. -/
def occurrences (groups : List FileGroup) (warned : List Path) (file : Path) : Nat :=
  (groups.map FileGroup.base).count file + (groups.flatMap FileGroup.satellites).count file +
    warned.count file

section Occurrences

variable {files : List Path} (h : files.Pairwise (· < ·)) {file : Path}

include h

theorem occurrences_of_satellite (hfile : file ∈ files)
    (hsatellite : isSatellite locales file = true) :
    occurrences (groupsOf locales files) (orphans locales files) file = 1 := by
  have hbase : ((groupsOf locales files).map FileGroup.base).count file = 0 := by
    refine List.count_eq_zero_of_not_mem fun hmem => ?_
    rw [((mem_groupBases_iff h).mp hmem).2.1] at hsatellite
    exact Bool.noConfusion hsatellite
  unfold occurrences
  rw [hbase]
  -- The satellite is verified or warned about, as its key has a base or not.
  by_cases hnone : Keyed.get? (keyOf locales file) (bases locales files) = none
  · have horphan := mem_orphans_iff.mpr ⟨hfile, hsatellite, hnone⟩
    have hgrouped : file ∉ (groupsOf locales files).flatMap FileGroup.satellites := fun hmem =>
      ((mem_groupSatellites_iff h).mp hmem).2.2 hnone
    rw [List.count_eq_zero_of_not_mem hgrouped,
      List.count_eq_one_of_mem (nodup_orphans h) horphan]
  · have hgrouped := (mem_groupSatellites_iff h).mpr ⟨hfile, hsatellite, hnone⟩
    have horphan : file ∉ orphans locales files := fun hmem => hnone (mem_orphans_iff.mp hmem).2.2
    rw [List.count_eq_one_of_mem (nodup_groupSatellites h) hgrouped,
      List.count_eq_zero_of_not_mem horphan]

theorem occurrences_of_base (hbase : isSatellite locales file = false) :
    occurrences (groupsOf locales files) (orphans locales files) file =
      ((groupsOf locales files).map FileGroup.base).count file := by
  have hgrouped : file ∉ (groupsOf locales files).flatMap FileGroup.satellites := fun hmem => by
    have hsatellite := ((mem_groupSatellites_iff h).mp hmem).2.1
    rw [hbase] at hsatellite
    exact Bool.noConfusion hsatellite
  have horphan : file ∉ orphans locales files := fun hmem => by
    have hsatellite := (mem_orphans_iff.mp hmem).2.1
    rw [hbase] at hsatellite
    exact Bool.noConfusion hsatellite
  unfold occurrences
  rw [List.count_eq_zero_of_not_mem hgrouped, List.count_eq_zero_of_not_mem horphan]
  rfl

/-- A hidden base occurs nowhere. -/
theorem occurrences_of_hidden (hhidden : Hidden locales files file) :
    occurrences (groupsOf locales files) (orphans locales files) file = 0 := by
  rw [occurrences_of_base h hhidden.1]
  exact List.count_eq_zero_of_not_mem fun hmem => ((mem_groupBases_iff h).mp hmem).2.2 hhidden

/-- Every file that is not hidden occurs once. -/
theorem occurrences_of_not_hidden (hfile : file ∈ files)
    (hstands : ¬ Hidden locales files file) :
    occurrences (groupsOf locales files) (orphans locales files) file = 1 := by
  cases hkind : isSatellite locales file with
  | true => exact occurrences_of_satellite h hfile hkind
  | false =>
      rw [occurrences_of_base h hkind]
      exact List.count_eq_one_of_mem (nodup_groupBases files)
        ((mem_groupBases_iff h).mpr ⟨hfile, hkind, hstands⟩)

/-- No base is hidden exactly if no two bases share a key. -/
theorem not_hidden_iff :
    (∀ p ∈ files, ¬ Hidden locales files p) ↔
      ∀ p ∈ files, ∀ q ∈ files, isSatellite locales p = false → isSatellite locales q = false →
        keyOf locales p = keyOf locales q → p = q := by
  constructor
  · intro hstands p hp q hq hpbase hqbase hkey
    rcases Path.comparable_of_ascending h p hp q hq with hlt | heq | hlt
    · exact absurd ⟨hpbase, q, hq, hqbase, hkey.symm, hlt⟩ (hstands p hp)
    · exact heq
    · exact absurd ⟨hqbase, p, hp, hpbase, hkey, hlt⟩ (hstands q hq)
  · rintro hunique p hp ⟨hpbase, q, hq, hqbase, hkey, hlt⟩
    have heq := hunique p hp q hq hpbase hqbase hkey.symm
    exact Path.lt_irrefl q (heq ▸ hlt)

end Occurrences

/-! ## Warnings -/

/-- The warning about a satellite without a base. -/
def orphanWarning (file : Path) : Event :=
  log .warning s!"No base resource file for satellite: {file.text}"

theorem missing_ne_orphanWarning (p file : Path) :
    log .warning s!"Path does not exist: {p.text}" ≠ orphanWarning file := by
  intro heq
  have hmessage : "Path does not exist: " ++ p.text =
      "No base resource file for satellite: " ++ file.text := by
    injection heq with hrecord
    injection hrecord
  have hhead := congrArg (fun s => s.toList.head?) hmessage
  simp [String.toList_append] at hhead

/-- The warnings about satellites without a base stand together, one for each of them. -/
theorem warnings_run (t : FileTree) (paths : List Path) :
    ∃ before after, (run locales t paths).events =
        before ++ (orphans locales (run locales t paths).files).map orphanWarning ++ after ∧
      ∀ event ∈ before ++ after, ∀ file, event ≠ orphanWarning file := by
  refine ⟨_, _, rfl, ?_⟩
  intro event hevent file
  rcases List.mem_append.mp hevent with hbefore | hafter
  · rcases List.mem_append.mp hbefore with hmissing | hculture
    · obtain ⟨p, -, rfl⟩ := List.mem_map.mp hmissing
      exact missing_ne_orphanWarning p file
    · obtain ⟨segment, -, rfl⟩ := List.mem_map.mp hculture
      exact nofun
  · rw [List.mem_singleton.mp hafter]
    exact nofun

/-! ## What is discovered -/

theorem pairwise_files (locales : Culture.Locales) (t : FileTree) (paths : List Path) :
    (run locales t paths).files.Pairwise (· < ·) :=
  Ascending.pairwise_ofList _

/-- How often a file occurs in an outcome. -/
def Outcome.occurrences (o : Outcome) (locales : Culture.Locales) (file : Path) : Nat :=
  Discovery.occurrences o.groups (orphans locales o.files) file

/-- **No file is lost but a hidden base, and none is doubled.** All files occur exactly once
if and only if no two base files share a directory and a stem; otherwise the last base of a
key stands, and the bases before it occur nowhere. -/
theorem run_accounts (locales : Culture.Locales) (t : FileTree) (paths : List Path) :
    (∀ file ∈ (run locales t paths).files,
      (¬ Hidden locales (run locales t paths).files file →
        (run locales t paths).occurrences locales file = 1) ∧
      (Hidden locales (run locales t paths).files file →
        (run locales t paths).occurrences locales file = 0)) ∧
    ((∀ file ∈ (run locales t paths).files,
        (run locales t paths).occurrences locales file = 1) ↔
      ∀ p ∈ (run locales t paths).files, ∀ q ∈ (run locales t paths).files,
        isSatellite locales p = false → isSatellite locales q = false →
          keyOf locales p = keyOf locales q → p = q) ∧
    ∃ before after, (run locales t paths).events =
        before ++ (orphans locales (run locales t paths).files).map orphanWarning ++ after ∧
      ∀ event ∈ before ++ after, ∀ file, event ≠ orphanWarning file := by
  have hfiles := pairwise_files locales t paths
  have hoccurrences : ∀ file, (run locales t paths).occurrences locales file =
      occurrences (groupsOf locales (run locales t paths).files)
        (orphans locales (run locales t paths).files) file :=
    fun _ => rfl
  simp only [hoccurrences]
  refine ⟨?_, ?_, warnings_run t paths⟩
  · intro file hfile
    exact ⟨occurrences_of_not_hidden hfiles hfile, occurrences_of_hidden hfiles⟩
  · rw [← not_hidden_iff hfiles]
    constructor
    · intro hall file hfile hhidden
      have hone := hall file hfile
      rw [occurrences_of_hidden hfiles hhidden] at hone
      exact Nat.noConfusion hone
    · intro hstands file hfile
      exact occurrences_of_not_hidden hfiles hfile (hstands file hfile)

/-- Two resource files that differ in the case of their suffix. -/
def suffixTwins : FileTree := ⟨[], [(["S.RESX"], []), (["S.resx"], [])], []⟩

/-- Of two such files the search finds both, and one of them becomes nothing. -/
theorem suffix_twin_is_lost :
    (run (fun _ => false) suffixTwins [⟨.current, []⟩]).files =
        [⟨.current, ["S.RESX"]⟩, ⟨.current, ["S.resx"]⟩] ∧
      (run (fun _ => false) suffixTwins [⟨.current, []⟩]).groups =
        [⟨⟨.current, ["S.resx"]⟩, []⟩] ∧
      (run (fun _ => false) suffixTwins [⟨.current, []⟩]).occurrences (fun _ => false)
        ⟨.current, ["S.RESX"]⟩ = 0 := by
  decide +kernel

end Discovery

end ResourceAudit
