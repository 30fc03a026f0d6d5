import ResourceAudit.Proofs.Project.Partition
import ResourceAudit.Proofs.Storage.Walk

/-!
# Listings of paths

The groups that are discovered are well formed: a base has no culture, its satellites are files
of its directory whose stem is the stem of the base with a culture after it, everything is in path
order, and no file is in two places. They depend on the files that the paths stand for and not on
how these are listed (`Relisted`).
-/

namespace ResourceAudit

namespace Discovery

variable {locales : Culture.Locales}

/-! ## Cultures -/

/-- The stem of a file ends in a dot and a culture name. -/
structure HasCulture (locales : Culture.Locales) (p : Path) (stem culture : String) :
    Prop where
  stem_eq : p.stem = stem ++ "." ++ culture
  ne_empty : stem ≠ ""
  no_dot : '.' ∉ culture.toList
  isName : Culture.isName locales culture = true

theorem lastSegment?_eq_some_iff {s head segment : String} :
    lastSegment? s = some (head, segment) ↔
      s = head ++ "." ++ segment ∧ head ≠ "" ∧ '.' ∉ segment.toList := by
  have htext : ∀ front tail : List Char,
      s.toList = front ++ '.' :: tail ↔ s = String.ofList front ++ "." ++ String.ofList tail := by
    intro front tail
    rw [← String.toList_inj]
    simp
  unfold lastSegment?
  constructor
  · intro h
    split at h
    next front tail haround =>
      split at h
      next => cases h
      next hempty =>
        cases h
        obtain ⟨hdot, hs⟩ := Text.aroundLast?_eq_some_iff.mp haround
        exact ⟨(htext front tail).mp hs, by simpa using hempty, by simpa using hdot⟩
    next => cases h
  · rintro ⟨hs, hne, hdot⟩
    have haround : Text.aroundLast? '.' s.toList = some (head.toList, segment.toList) :=
      Text.aroundLast?_eq_some_iff.mpr ⟨hdot, (htext _ _).mpr (by simpa using hs)⟩
    rw [haround]
    simp [hne]

/-- A file has a culture, and its stem without it, or it has its own stem. -/
theorem splitCulture_cases (p : Path) :
    (∃ stem culture, HasCulture locales p stem culture ∧
        splitCulture locales p = (stem, some culture)) ∨
      (∀ stem culture, ¬ HasCulture locales p stem culture) ∧
        splitCulture locales p = (p.stem, none) := by
  unfold splitCulture
  cases hlast : lastSegment? p.stem with
  | none =>
      refine .inr ⟨?_, rfl⟩
      rintro stem culture ⟨hstem, hne, hdot, -⟩
      rw [lastSegment?_eq_some_iff.mpr ⟨hstem, hne, hdot⟩] at hlast
      cases hlast
  | some parts =>
      obtain ⟨head, segment⟩ := parts
      dsimp only
      obtain ⟨hstem, hne, hdot⟩ := lastSegment?_eq_some_iff.mp hlast
      cases hname : Culture.isName locales segment with
      | true => exact .inl ⟨head, segment, ⟨hstem, hne, hdot, hname⟩, rfl⟩
      | false =>
          refine .inr ⟨?_, rfl⟩
          rintro stem culture ⟨hstem', hne', hdot', hname'⟩
          have hparts := hlast.symm.trans (lastSegment?_eq_some_iff.mpr ⟨hstem', hne', hdot'⟩)
          cases hparts
          rw [hname] at hname'
          cases hname'

theorem not_hasCulture_of_base {p : Path} (h : isSatellite locales p = false) :
    (∀ stem culture, ¬ HasCulture locales p stem culture) ∧ (keyOf locales p).2 = p.stem := by
  rcases splitCulture_cases p with ⟨stem, culture, -, hsplit⟩ | ⟨hnone, hsplit⟩
  · rw [isSatellite, hsplit] at h
    cases h
  · exact ⟨hnone, congrArg Prod.fst hsplit⟩

theorem hasCulture_of_satellite {p : Path} (h : isSatellite locales p = true) :
    ∃ culture, HasCulture locales p (keyOf locales p).2 culture := by
  rcases splitCulture_cases p with ⟨stem, culture, hculture, hsplit⟩ | ⟨-, hsplit⟩
  · have hstem : (keyOf locales p).2 = stem := congrArg Prod.fst hsplit
    exact ⟨culture, hstem ▸ hculture⟩
  · rw [isSatellite, hsplit] at h
    cases h

/-! ## Groups -/

/-- Groups of bases with their satellites, in path order and apart from each other. -/
structure WellFormed (locales : Culture.Locales) (groups : List FileGroup) : Prop where
  base : ∀ g ∈ groups, ∀ stem culture, ¬ HasCulture locales g.base stem culture
  satellite : ∀ g ∈ groups, ∀ file ∈ g.satellites,
    file.parent = g.base.parent ∧ ∃ culture, HasCulture locales file g.base.stem culture
  basesAscend : (groups.map FileGroup.base).Pairwise (· < ·)
  satellitesAscend : ∀ g ∈ groups, g.satellites.Pairwise (· < ·)
  apart : (groups.map FileGroup.base ++ groups.flatMap FileGroup.satellites).Nodup

theorem satellites_of_mem_groupsOf {files : List Path} {g : FileGroup}
    (hg : g ∈ groupsOf locales files) :
    g.satellites = satellitesOf locales files (keyOf locales g.base) := by
  obtain ⟨base, -, rfl⟩ := List.mem_map.mp hg
  exact Keyed.getD_get?_gather (keyOf locales) (files.filter (isSatellite locales))
    (keyOf locales base)

/-- The groups of ascending files are well formed. -/
theorem wellFormed_groupsOf {files : List Path} (h : files.Pairwise (· < ·)) :
    WellFormed locales (groupsOf locales files) := by
  have hbases :
      ∀ base ∈ (groupsOf locales files).map FileGroup.base, isSatellite locales base = false :=
    fun base hbase => ((mem_groupBases_iff h).mp hbase).2.1
  have hplain : ∀ g ∈ groupsOf locales files, isSatellite locales g.base = false :=
    fun g hg => hbases g.base (List.mem_map_of_mem hg)
  refine ⟨?_, ?_, ?_, ?_, ?_⟩
  · intro g hg
    exact (not_hasCulture_of_base (hplain g hg)).1
  · intro g hg file hfile
    rw [satellites_of_mem_groupsOf hg] at hfile
    obtain ⟨-, hsatellite, hkey⟩ := mem_satellitesOf.mp hfile
    obtain ⟨culture, hculture⟩ := hasCulture_of_satellite hsatellite
    rw [hkey, (not_hasCulture_of_base (hplain g hg)).2] at hculture
    exact ⟨congrArg Prod.fst hkey, culture, hculture⟩
  · rw [map_base_groupsOf]
    exact Ascending.pairwise_ofList _
  · intro g hg
    rw [satellites_of_mem_groupsOf hg]
    exact (h.filter _).filter _
  · refine List.nodup_append.mpr ⟨nodup_groupBases files, nodup_groupSatellites h, ?_⟩
    rintro base hbase file hfile rfl
    have hsatellite := ((mem_groupSatellites_iff h).mp hfile).2.1
    rw [hbases base hbase] at hsatellite
    cases hsatellite

/-! ## Files that paths stand for -/

theorem mem_filesAt_iff {t : FileTree} {p q : Path} :
    q ∈ filesAt t p ↔
      (t.isDirectory p = true ∧ q ∈ t.filesBelow p ∧ hasSuffix q.name = true) ∨
        (t.isDirectory p = false ∧ t.isFile p = true ∧ q = p) := by
  unfold filesAt
  cases hdirectory : t.isDirectory p with
  | true => simp
  | false =>
      cases hfile : t.isFile p with
      | true => simp
      | false => simp

theorem exists_resolve_of_mem {t : FileTree} {p q : Path} (h : q ∈ t.filesBelow p) :
    ∃ place, t.resolve p = .ok place := by
  unfold FileTree.filesBelow at h
  cases hplace : t.resolve p with
  | ok place => exact ⟨place, rfl⟩
  | error e =>
      rw [hplace] at h
      cases h

section Named

variable {t : FileTree} (hnamed : t.Named) {p q : Path}

include hnamed

theorem proper_of_mem_filesAt (hp : p.Proper) (hq : q ∈ filesAt t p) : q.Proper := by
  rcases mem_filesAt_iff.mp hq with ⟨-, hbelow, -⟩ | ⟨-, -, rfl⟩
  · obtain ⟨place, hplace⟩ := exists_resolve_of_mem hbelow
    obtain ⟨rest, rfl, -, hfile⟩ := (FileTree.mem_filesBelow_iff hplace).mp hbelow
    exact hp.append fun c hc => (hnamed _ hfile c (List.mem_append_right place hc)).1
  · exact hp

/-- Whatever is found at the path of a found file was found along with it. -/
theorem filesAt_subset_of_mem (hq : q ∈ filesAt t p) : filesAt t q ⊆ filesAt t p := by
  intro r hr
  rcases mem_filesAt_iff.mp hr with ⟨-, hbelow, hsuffix⟩ | ⟨-, -, rfl⟩
  · rcases mem_filesAt_iff.mp hq with ⟨hdirectory, hqbelow, -⟩ | ⟨-, -, rfl⟩
    · obtain ⟨place, hplace⟩ := exists_resolve_of_mem hqbelow
      obtain ⟨rest, rfl, hne, hfile⟩ := (FileTree.mem_filesBelow_iff hplace).mp hqbelow
      have hqplace := FileTree.resolve_append_of_mem hnamed hplace hfile
      obtain ⟨further, rfl, -, hfurther⟩ := (FileTree.mem_filesBelow_iff hqplace).mp hbelow
      rw [List.append_assoc] at hfurther
      have hpath : (p.append rest).append further = p.append (rest ++ further) :=
        congrArg (Path.mk p.anchor) (List.append_assoc p.components rest further)
      rw [hpath] at hsuffix ⊢
      refine mem_filesAt_iff.mpr (.inl ⟨hdirectory, ?_, hsuffix⟩)
      exact (FileTree.mem_filesBelow_iff hplace).mpr
        ⟨rest ++ further, rfl, List.append_ne_nil_of_left_ne_nil hne further, hfurther⟩
    · exact hr
  · exact hq

end Named

/-! ## Listings -/

/-- The texts of paths that list the same: in another order, with a path listed again, or with a
file listed that another path stands for under the same text. -/
inductive Relisted (t : FileTree) : List String → List String → Prop
  | reordered {xs ys : List String} (h : xs.Perm ys) : Relisted t xs ys
  | repeated {x : String} {xs : List String} (h : x ∈ xs) : Relisted t (x :: xs) xs
  | found {x d : String} {xs : List String} {file : Path} (hlisted : d ∈ xs)
      (hfile : file ∈ filesAt t (.ofString d)) (htext : (Path.ofString x).text = file.text) :
      Relisted t (x :: xs) xs
  | symm {xs ys : List String} (h : Relisted t xs ys) : Relisted t ys xs
  | trans {xs ys zs : List String} (h : Relisted t xs ys) (h' : Relisted t ys zs) :
      Relisted t xs zs

/-- The texts of paths stand for a file. -/
def Lists (t : FileTree) (texts : List String) (file : Path) : Prop :=
  ∃ x ∈ texts, file ∈ filesAt t (.ofString x)

/-- A text adds nothing if its files are listed already. -/
theorem lists_cons_iff {t : FileTree} {x : String} {xs : List String}
    (h : ∀ file ∈ filesAt t (.ofString x), Lists t xs file) (file : Path) :
    Lists t (x :: xs) file ↔ Lists t xs file := by
  constructor
  · rintro ⟨y, hy, hfile⟩
    rcases List.mem_cons.mp hy with rfl | hy
    · exact h file hfile
    · exact ⟨y, hy, hfile⟩
  · rintro ⟨y, hy, hfile⟩
    exact ⟨y, List.mem_cons_of_mem x hy, hfile⟩

section Listings

variable {t : FileTree} (hnamed : t.Named) {texts texts' : List String}

include hnamed

theorem lists_iff_of_relisted (h : Relisted t texts texts') (p : Path) :
    Lists t texts p ↔ Lists t texts' p := by
  induction h with
  | reordered h => exact exists_congr fun x => and_congr_left' h.mem_iff
  | @repeated x xs hx => exact lists_cons_iff (fun file hfile => ⟨x, hx, hfile⟩) p
  | @found x d xs file hlisted hfile htext =>
      have hproper := proper_of_mem_filesAt hnamed (Path.proper_ofString d) hfile
      have hpath : Path.ofString x = file := by
        rw [← Path.ofString_text (Path.proper_ofString x), htext, Path.ofString_text hproper]
      refine lists_cons_iff (fun q hq => ⟨d, hlisted, ?_⟩) p
      rw [hpath] at hq
      exact filesAt_subset_of_mem hnamed hfile hq
  | symm _ ih => exact ih.symm
  | trans _ _ ih ih' => exact ih.trans ih'

theorem mem_expand_iff {p : Path} :
    p ∈ expand t (texts.map Path.ofString) ↔ Lists t texts p := by
  have hproper : ∀ q, Lists t texts q → q.Proper := by
    rintro q ⟨x, -, hq⟩
    exact proper_of_mem_filesAt hnamed (Path.proper_ofString x) hq
  have hmem : ∀ q, q ∈ (texts.map Path.ofString).flatMap (filesAt t) ↔ Lists t texts q := by
    intro q
    rw [List.flatMap_map, List.mem_flatMap]
    rfl
  rw [← hmem]
  exact Ascending.mem_ofList_of_comparable fun q hq r hr =>
    (hproper q ((hmem q).mp hq)).comparable (hproper r ((hmem r).mp hr))

theorem expand_eq_of_relisted (h : Relisted t texts texts') :
    expand t (texts.map Path.ofString) = expand t (texts'.map Path.ofString) := by
  refine Path.eq_of_ascending (Ascending.pairwise_ofList _) (Ascending.pairwise_ofList _) ?_
  intro p
  exact (mem_expand_iff hnamed).trans
    ((lists_iff_of_relisted hnamed h p).trans (mem_expand_iff hnamed).symm)

end Listings

/-- **Groups are well formed and do not depend on how paths are listed.** -/
theorem groups_of_listing (locales : Culture.Locales) (t : FileTree) (texts : List String) :
    WellFormed locales (run locales t (texts.map Path.ofString)).groups ∧
      ∀ texts', t.Named → Relisted t texts' texts →
        (run locales t (texts'.map Path.ofString)).groups =
          (run locales t (texts.map Path.ofString)).groups := by
  refine ⟨wellFormed_groupsOf (pairwise_files locales t _), ?_⟩
  intro texts' hnamed h
  exact congrArg (groupsOf locales) (expand_eq_of_relisted hnamed h)

/-- There is one locale. -/
def afrikaans : Culture.Locales := fun id => id == "af"

/-- A base and a satellite, in a directory below the current one. -/
def localized : FileTree :=
  ⟨["home"], [(["home", "a", "S.resx"], []), (["home", "a", "S.af.resx"], [])], []⟩

/-- The satellite may be listed as well, and the current directory twice. -/
theorem groups_of_listing_localized :
    localized.Named ∧
      Relisted localized ["a", "./a/S.af.resx", ".", "."] [".", "a"] ∧
      WellFormed afrikaans (run afrikaans localized ([".", "a"].map Path.ofString)).groups ∧
      (run afrikaans localized (["a", "./a/S.af.resx", ".", "."].map Path.ofString)).groups =
        (run afrikaans localized ([".", "a"].map Path.ofString)).groups ∧
      (run afrikaans localized ([".", "a"].map Path.ofString)).groups =
        [⟨⟨.current, ["a", "S.resx"]⟩, [⟨.current, ["a", "S.af.resx"]⟩]⟩] := by
  have hnamed : localized.Named := by
    have hnames : ∀ file ∈ localized.files.map Prod.fst, ∀ c ∈ file,
        (c ≠ "" ∧ c ≠ "." ∧ '/' ∉ c.toList) ∧ c ≠ ".." := by decide +kernel
    intro file hfile c hc
    obtain ⟨⟨hempty, hdot, hslash⟩, hup⟩ := hnames file hfile c hc
    exact ⟨⟨hempty, hdot, hslash⟩, hup⟩
  have hrelisted : Relisted localized ["a", "./a/S.af.resx", ".", "."] [".", "a"] := by
    have horder : ["a", "./a/S.af.resx", ".", "."].Perm ["./a/S.af.resx", ".", ".", "a"] := by
      decide
    have hfile : (⟨.current, ["a", "S.af.resx"]⟩ : Path) ∈ filesAt localized (.ofString ".") := by
      decide +kernel
    exact (Relisted.reordered horder).trans
      ((Relisted.found List.mem_cons_self hfile (by decide +kernel)).trans
        (.repeated List.mem_cons_self))
  obtain ⟨hwell, hsame⟩ := groups_of_listing afrikaans localized [".", "a"]
  exact ⟨hnamed, hrelisted, hwell, hsame _ hnamed hrelisted, by decide +kernel⟩

end Discovery

end ResourceAudit
