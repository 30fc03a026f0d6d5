import ResourceAudit.Proofs.Check.Outlet
import ResourceAudit.Proofs.Declaration.Mode

/-!
# What a check reads

The comments of satellites and of include entries are notes, a type tag only tells includes
from text, and a base entry whose comment begins with a hyphen is exempt: neither its value
nor a translation of it is checked. Two groups that differ in nothing else (`GroupInput.Alike`)
are told apart by no check: a relation between the entries passes to what each of them
contributes, to the items, and to the runs.
-/

namespace ResourceAudit

/-! ## Groups that are alike -/

namespace Entry

/-- A text entry whose comment begins with a hyphen, blanks aside. -/
def isExempt (e : Entry) : Bool :=
  !e.isInclude && e.comment.any fun comment =>
    (Text.dropBlank comment.toList).head? == some '-'

/-- Base entries that differ at most in their type tags, the comment of an include, and the
value of an exempt entry. -/
structure BaseAlike (e e' : Entry) : Prop where
  name_eq : e.name = e'.name
  isInclude_eq : e.isInclude = e'.isInclude
  comment_eq : e.isInclude = false → e.comment = e'.comment
  value_eq : e.isExempt = false → e.value = e'.value

/-- A text entry of a satellite that translates an exempt entry of the base. -/
def TranslatesExempt (base : List Entry) (e : Entry) : Prop :=
  e.isInclude = false ∧ ∃ b ∈ base, b.name = e.name ∧ b.isExempt = true

instance (base : List Entry) (e : Entry) : Decidable (TranslatesExempt base e) :=
  inferInstanceAs (Decidable (_ ∧ _))

/-- Satellite entries that differ at most in their comments, their type tags, and the
translation of an exempt entry. -/
structure LocalAlike (base : List Entry) (e e' : Entry) : Prop where
  name_eq : e.name = e'.name
  isInclude_eq : e.isInclude = e'.isInclude
  value_eq : ¬ TranslatesExempt base e → e.value = e'.value

end Entry

structure Satellite.Alike (base : List Entry) (s s' : Satellite) : Prop where
  file_eq : s.file = s'.file
  entries : List.Forall₂ (Entry.LocalAlike base) s.entries s'.entries

/-- Groups that differ at most in what is not read. -/
structure GroupInput.Alike (g g' : GroupInput) : Prop where
  policy_eq : g.policy = g'.policy
  baseFile_eq : g.baseFile = g'.baseFile
  entries : List.Forall₂ Entry.BaseAlike g.entries g'.entries
  satellites : List.Forall₂ (Satellite.Alike g.entries) g.satellites g'.satellites

/-- Items that differ at most in their value, and in that only if they are suppressed. -/
structure Item.Alike (i i' : Item) : Prop where
  name_eq : i.name = i'.name
  type_eq : i.type = i'.type
  mode_eq : i.mode = i'.mode
  placeholders_eq : i.placeholders = i'.placeholders
  value_eq : i.isSuppressed = false → i.value = i'.value

theorem Item.Alike.refl (i : Item) : i.Alike i :=
  ⟨rfl, rfl, rfl, rfl, fun _ => rfl⟩

/-- Equal diagnostics in the same order, and the same items but for the values of those that
are suppressed. -/
structure GroupResult.Alike (r r' : GroupResult) : Prop where
  result_eq : r.result = r'.result
  items : List.Forall₂ Item.Alike r.items r'.items

/-- A suppressing comment begins with a hyphen, blanks aside, and every such comment
suppresses. -/
theorem Mode.ofComment_eq_suppressed_iff {comment : Option String} :
    ofComment comment = .ok .suppressed ↔
      comment.any (fun c => (Text.dropBlank c.toList).head? == some '-') = true := by
  cases comment with
  | none => exact iff_of_false nofun nofun
  | some c =>
      show read c.toList = .ok .suppressed ↔ ((Text.dropBlank c.toList).head? == some '-') = true
      rw [read_eq_suppressed_iff, beq_iff_eq, List.head?_eq_some_iff]

theorem Entry.ofComment_of_isExempt {e : Entry} (h : e.isExempt = true) :
    e.isInclude = false ∧ Mode.ofComment e.comment = .ok .suppressed := by
  unfold isExempt at h
  rw [Bool.and_eq_true, Bool.not_eq_true'] at h
  exact ⟨h.1, Mode.ofComment_eq_suppressed_iff.mpr h.2⟩

theorem Entry.BaseAlike.isExempt_eq {e e' : Entry} (h : e.BaseAlike e') :
    e.isExempt = e'.isExempt := by
  unfold isExempt
  rw [← h.isInclude_eq]
  cases hinclude : e.isInclude with
  | true => rfl
  | false => rw [h.comment_eq hinclude]

namespace Check

/-! ## Base entries -/

section Base

variable {policy : Policy} {file : Option String} {baseFile : String} {e e' : Entry}
  {entries entries' : List Entry} {cs cs' : List Contribution}

/-- The item of an exempt entry. -/
def exemptItem (e : Entry) : Item :=
  ⟨e.name, e.value, stringType, .suppressed, []⟩

/-- An exempt entry is accepted whatever its value is. -/
theorem entry_of_isExempt (h : e.isExempt = true) :
    entry policy file e = .ok (.accepted (exemptItem e)) := by
  obtain ⟨hstring, hmode⟩ := Entry.ofComment_of_isExempt h
  unfold entry stringEntry
  rw [hstring, hmode]
  rfl

/-- The type tag and the comment of an include are not read. -/
theorem entry_of_isInclude (h : e.isInclude = true) :
    entry policy file e = .ok (includeEntry file ⟨e.name, e.value, none, none⟩) := by
  unfold entry
  rw [if_pos h]
  rfl

/-- Outcomes with the same diagnostics and items that are alike. -/
structure EntryOutcome.Alike (out out' : EntryOutcome) : Prop where
  diagnostics_eq : out.diagnostics = out'.diagnostics
  item : Option.Rel Item.Alike out.item out'.item

theorem EntryOutcome.Alike.refl (out : EntryOutcome) : out.Alike out := by
  refine ⟨rfl, ?_⟩
  cases out.item with
  | none => exact .none
  | some i => exact .some (Item.Alike.refl i)

theorem alike_entry (h : e.BaseAlike e') :
    Attempt.Alike EntryOutcome.Alike (entry policy file e) (entry policy file e') := by
  cases hinclude : e.isInclude with
  | true =>
      have hvalue : e.value = e'.value := by
        refine h.value_eq ?_
        unfold Entry.isExempt
        rw [hinclude]
        rfl
      refine .of_eq EntryOutcome.Alike.refl ?_
      rw [entry_of_isInclude hinclude, entry_of_isInclude (h.isInclude_eq ▸ hinclude),
        h.name_eq, hvalue]
  | false =>
      cases hexempt : e.isExempt with
      | true =>
          have hexempt' : e'.isExempt = true := h.isExempt_eq ▸ hexempt
          rw [entry_of_isExempt hexempt, entry_of_isExempt hexempt']
          exact .ok ⟨rfl, .some ⟨h.name_eq, rfl, rfl, rfl, nofun⟩⟩
      | false =>
          -- Nothing is left in which the two entries could differ.
          have hsame : e = e' := by
            obtain ⟨name, value, comment, type⟩ := e
            obtain ⟨name', value', comment', type'⟩ := e'
            obtain rfl : type = none := type_of_not_isInclude hinclude
            obtain rfl : type' = none :=
              type_of_not_isInclude (h.isInclude_eq.symm.trans hinclude)
            obtain rfl : name = name' := h.name_eq
            obtain rfl : value = value' := h.value_eq hexempt
            obtain rfl : comment = comment' := h.comment_eq hinclude
            rfl
          exact .of_eq EntryOutcome.Alike.refl (congrArg _ hsame)

structure Contribution.Alike (c c' : Contribution) : Prop where
  events_eq : c.events = c'.events
  item : Option.Rel Item.Alike c.item c'.item

theorem alike_contributionOf {out out' : EntryOutcome} (hname : e.name = e'.name)
    (h : out.Alike out') :
    (contributionOf baseFile e out).Alike (contributionOf baseFile e' out') := by
  obtain ⟨item, ds⟩ := out
  obtain ⟨item', ds'⟩ := out'
  obtain ⟨rfl, hitem⟩ := h
  cases hitem with
  | none =>
      refine ⟨?_, .none⟩
      show _ ++ [progress .debug s!"Rejected {e.name} in {baseFile}"] = _
      rw [hname]
      rfl
  | some hi => exact ⟨rfl, .some hi⟩

theorem alike_baseEntry (h : e.BaseAlike e') (repeated : Bool) :
    Attempt.Alike Contribution.Alike (baseEntry policy baseFile (e, repeated))
      (baseEntry policy baseFile (e', repeated)) := by
  cases repeated with
  | true =>
      refine .ok ⟨?_, .none⟩
      dsimp only
      rw [h.name_eq]
  | false =>
      rw [baseEntry_unmarked, baseEntry_unmarked]
      exact (alike_entry h).map fun _ _ hout => alike_contributionOf h.name_eq hout

theorem alike_baseEntries (h : List.Forall₂ Entry.BaseAlike entries entries') :
    Attempt.Alike (List.Forall₂ Contribution.Alike) (baseEntries policy baseFile entries)
      (baseEntries policy baseFile entries') := by
  refine Attempt.Alike.mapM ((Entry.forall₂_markRepeats (fun _ _ he => he.name_eq) h).imp ?_)
  rintro ⟨e, repeated⟩ ⟨e', repeated'⟩ ⟨he, hrepeated⟩
  obtain rfl : repeated = repeated' := hrepeated
  exact alike_baseEntry he repeated

theorem baseEvents_of_alike (opening : List Event) (h : List.Forall₂ Contribution.Alike cs cs') :
    baseEvents opening cs = baseEvents opening cs' := by
  have hevents : cs.map Contribution.events = cs'.map Contribution.events := by
    induction h with
    | nil => rfl
    | cons hc _ ih => rw [List.map_cons, List.map_cons, hc.events_eq, ih]
  unfold baseEvents
  rw [hevents]

theorem alike_itemsOf (h : List.Forall₂ Contribution.Alike cs cs') :
    List.Forall₂ Item.Alike (itemsOf cs) (itemsOf cs') := by
  induction h with
  | nil => exact .nil
  | @cons c c' cs cs' hc _ ih =>
      unfold itemsOf at ih ⊢
      rw [List.filterMap_cons, List.filterMap_cons]
      have hitem := hc.item
      generalize c.item = item at hitem ⊢
      generalize c'.item = item' at hitem ⊢
      cases hitem with
      | none => exact ih
      | some hi => exact .cons hi ih

/-- In a clean base the item of the name of an exempt entry is that of the entry. -/
theorem find?_of_isExempt (hbase : baseEntries policy baseFile entries = .ok cs)
    (hclean : isClean (Event.diagnostics (baseEvents [] cs)) = true) (he : e ∈ entries)
    (hexempt : e.isExempt = true) :
    Item.find? e.name (itemsOf cs) = some (exemptItem e) := by
  have hnodup : (entries.map Entry.name).Nodup := nodup_of_isClean hbase hclean
  have hitems : ((itemsOf cs).map Item.name).Nodup := (sublist_names hbase).nodup hnodup
  obtain ⟨repeated, hm⟩ := Entry.exists_mark he
  obtain ⟨c, hc, hentry⟩ := Attempt.exists_of_mem hbase hm
  obtain rfl : repeated = false := unmarked_of_baseEntry hentry (isClean_baseEvents.mp hclean c hc)
  rw [baseEntry_unmarked, entry_of_isExempt hexempt] at hentry
  cases hentry
  exact Item.find?_of_nodup hitems (List.mem_filterMap.mpr ⟨_, hc, rfl⟩)

end Base

/-! ## Satellite entries -/

section Local

variable {policy : Policy} {baseFile file : String} {e e' : Entry} {i i' : Item}
  {items items' : List Item}

theorem alike_find? (name : String) (h : List.Forall₂ Item.Alike items items') :
    Option.Rel Item.Alike (Item.find? name items) (Item.find? name items') := by
  unfold Item.find?
  have hreverse := List.rel_reverse h
  generalize items.reverse = rev at hreverse ⊢
  generalize items'.reverse = rev' at hreverse ⊢
  induction hreverse with
  | nil => exact .none
  | @cons i i' rev rev' hi _ ih =>
      rw [List.find?_cons, List.find?_cons, ← hi.name_eq]
      cases i.name == name with
      | true => exact .some hi
      | false => exact ih

/-- Of an item, its value is not read. -/
theorem localizedItem_alike (hi : i.Alike i') :
    localizedItem ⟨policy, baseFile, items⟩ file e i =
      localizedItem ⟨policy, baseFile, items'⟩ file e i' := by
  have hexpected : i.expectedPlaceholders = i'.expectedPlaceholders := by
    unfold Item.expectedPlaceholders
    rw [hi.mode_eq, hi.placeholders_eq]
  have hparameters : i.parameters = i'.parameters := congrArg Mode.parameters hi.mode_eq
  unfold localizedItem localizedValue localizedFormat
  rw [hi.type_eq, hi.mode_eq, hexpected, hparameters]

/-- A localized string is not read if the item is suppressed. -/
theorem localizedItem_suppressed {ref : Reference} (hmode : i.mode = .suppressed)
    (hname : e.name = e'.name) (hstring : e.isInclude = false) (hstring' : e'.isInclude = false) :
    localizedItem ref file e i = localizedItem ref file e' i := by
  unfold localizedItem localizedValue entryType?
  rw [hmode, hstring, hstring', hname]
  rfl

/-- The comment and the type tag of a satellite entry are not read. -/
theorem localizedItem_eq_of_value {ref : Reference} (hname : e.name = e'.name)
    (hinclude : e.isInclude = e'.isInclude) (hvalue : e.value = e'.value) :
    localizedItem ref file e i = localizedItem ref file e' i := by
  unfold localizedItem localizedValue localizedFormat entryType?
  rw [hname, hinclude, hvalue]

/-- Entries that are alike are verified alike against the items of a clean base. -/
theorem localizedEntry_alike {entries : List Entry} {cs : List Contribution}
    (hbase : baseEntries policy baseFile entries = .ok cs)
    (hclean : isClean (Event.diagnostics (baseEvents [] cs)) = true)
    (hitems : List.Forall₂ Item.Alike (itemsOf cs) items') (he : e.LocalAlike entries e') :
    localizedEntry ⟨policy, baseFile, itemsOf cs⟩ file e =
      localizedEntry ⟨policy, baseFile, items'⟩ file e' := by
  have hfind := alike_find? e.name hitems
  unfold localizedEntry
  dsimp only
  rw [← he.name_eq]
  cases hfound : Item.find? e.name (itemsOf cs) with
  | none =>
      rw [hfound] at hfind
      generalize Item.find? e.name items' = found' at hfind ⊢
      cases hfind
      rfl
  | some i =>
      rw [hfound] at hfind
      generalize Item.find? e.name items' = found' at hfind ⊢
      cases hfind with
      | @some _ i' hi =>
        dsimp only
        rw [← localizedItem_alike hi]
        by_cases hexempt : Entry.TranslatesExempt entries e
        · obtain ⟨hstring, b, hb, hname, hbexempt⟩ := hexempt
          have hitem := find?_of_isExempt hbase hclean hb hbexempt
          rw [hname, hfound] at hitem
          cases hitem
          exact localizedItem_suppressed rfl he.name_eq hstring
            (he.isInclude_eq.symm.trans hstring)
        · exact localizedItem_eq_of_value he.name_eq he.isInclude_eq (he.value_eq hexempt)

theorem satelliteEntries_alike {entries : List Entry} {cs : List Contribution} {s s' : Satellite}
    (hbase : baseEntries policy baseFile entries = .ok cs)
    (hclean : isClean (Event.diagnostics (baseEvents [] cs)) = true)
    (hitems : List.Forall₂ Item.Alike (itemsOf cs) items') (hs : s.Alike entries s') :
    satelliteEntries ⟨policy, baseFile, itemsOf cs⟩ s =
      satelliteEntries ⟨policy, baseFile, items'⟩ s' := by
  have hmarks := Entry.forall₂_markRepeats (fun _ _ he => he.name_eq) hs.entries
  unfold satelliteEntries
  rw [hs.file_eq]
  refine congrArg _ (Attempt.mapM_eq_of_forall₂ (hmarks.imp ?_))
  rintro ⟨e, repeated⟩ ⟨e', repeated'⟩ ⟨he, hrepeated⟩
  obtain rfl : repeated = repeated' := hrepeated
  cases repeated with
  | true =>
      show Except.ok [(Finding.resourceNameDuplicated e.name).asError _] = _
      rw [he.name_eq]
      rfl
  | false => exact localizedEntry_alike hbase hclean hitems he

end Local

/-! ## Groups -/

/-- Runs with the same events, log lines included, and items that are alike. -/
structure RunAlike (run run' : GroupRun) : Prop where
  events_eq : run.events = run'.events
  items : List.Forall₂ Item.Alike run.items run'.items

section Group

variable {baseFile : String} {run run' : GroupRun} {cs cs' : List Contribution}

theorem RunAlike.finish (h : RunAlike run run') :
    RunAlike (Check.finish baseFile run) (Check.finish baseFile run') := by
  have hlength : run.items.length = run'.items.length := h.items.length_eq
  refine ⟨?_, h.items⟩
  unfold Check.finish GroupRun.result
  rw [h.events_eq, hlength]

theorem runAlike_checkedRun (h : List.Forall₂ Contribution.Alike cs cs')
    (dss : List (List Diagnostic)) :
    RunAlike (checkedRun baseFile cs dss) (checkedRun baseFile cs' dss) := by
  have hevents := baseEvents_of_alike [] h
  refine RunAlike.finish ⟨?_, ?_⟩
  · unfold verifiedRun
    rw [hevents]
  · unfold verifiedRun
    rw [hevents]
    dsimp only
    split
    · exact .nil
    · exact alike_itemsOf h

theorem alike_checkAlone {g g' : GroupInput} (h : g.Alike g') :
    Attempt.Alike RunAlike (checkAlone g) (checkAlone g') := by
  unfold checkAlone
  rw [← h.policy_eq, ← h.baseFile_eq]
  have hentries : Attempt.Alike (List.Forall₂ Contribution.Alike)
      (baseEntries g.policy g.baseFile g.entries) (baseEntries g.policy g.baseFile g'.entries) :=
    alike_baseEntries h.entries
  rcases hentries.dest with ⟨failure, hbase, hbase'⟩ | ⟨cs, cs', hbase, hbase', hcs⟩
  · rw [group_failed hbase, group_failed hbase']
    exact .error failure
  · have hevents := baseEvents_of_alike [] hcs
    cases hclean : isClean (Event.diagnostics (baseEvents [] cs)) with
    | false =>
        rw [group_skipped hbase hclean, group_skipped hbase' (hevents ▸ hclean), hevents]
        exact .ok ⟨rfl, .nil⟩
    | true =>
        rw [group_checked hbase hclean, group_checked hbase' (hevents ▸ hclean)]
        have hsatellites : g.satellites.mapM
              (satelliteEntries ⟨g.policy, g.baseFile, itemsOf cs⟩) =
            g'.satellites.mapM (satelliteEntries ⟨g.policy, g.baseFile, itemsOf cs'⟩) := by
          refine Attempt.mapM_eq_of_forall₂ (h.satellites.imp ?_)
          intro s s' hs
          exact satelliteEntries_alike hbase hclean (alike_itemsOf hcs) hs
        refine (Attempt.Alike.of_eq Eq.refl hsatellites).map ?_
        rintro dss _ rfl
        exact runAlike_checkedRun hcs dss

end Group

/-- **Only what is declared matters.** Groups that differ at most in what is not read have
checks that end alike, for any caller: in the same failure, or with the same errors and
warnings in the same order, the same items but for the values of suppressed ones, and the
sink in the same state. -/
theorem only_declared_matters {g g' : GroupInput} (h : g.Alike g') (sink : Option Sink) :
    Attempt.Alike (fun out out' => out.1.Alike out'.1 ∧ out.2 = out'.2)
      (groupInto sink g) (groupInto sink g') := by
  rw [groupInto_eq, groupInto_eq]
  refine (alike_checkAlone h).map ?_
  intro run run' hrun
  have hforward : run.forward = run'.forward := by
    unfold GroupRun.forward
    rw [hrun.events_eq]
  exact ⟨⟨congrArg Event.result hrun.events_eq, hrun.items⟩, by rw [hforward]⟩

/-! ## An exempt pattern -/

def patternEntry (value : String) : Entry :=
  ⟨"pattern", value, some " -[a raw pattern]", none⟩

/-- A group with an exempt pattern, a greeting and an include, and a satellite of it. -/
def patternGroup (pattern translated : String) (note : Option String) (tag : String) :
    GroupInput where
  policy := .lenient
  baseFile := "Strings.resx"
  entries :=
    [patternEntry pattern, ⟨"greeting", "Hello, {0}!", some "{string name}", none⟩,
      ⟨"logo", "logo.png;Bitmap, Drawing", note, some tag⟩]
  satellites :=
    [⟨"Strings.de.resx",
      [⟨"pattern", translated, note, none⟩, ⟨"greeting", "Hallo!", note, none⟩,
        ⟨"logo", "logo.de.png;Bitmap, Drawing", note, some tag⟩]⟩]

theorem isExempt_patternEntry (value : String) : (patternEntry value).isExempt = true := by
  have hcomment : (patternEntry "").isExempt = true := by decide +kernel
  exact hcomment

theorem alike_patternGroup (pattern pattern' translated translated' : String)
    (note note' : Option String) (tag tag' : String) :
    (patternGroup pattern translated note tag).Alike
      (patternGroup pattern' translated' note' tag') := by
  have hpattern : (patternEntry pattern).BaseAlike (patternEntry pattern') := by
    refine ⟨rfl, rfl, fun _ => rfl, fun h => ?_⟩
    exact absurd ((isExempt_patternEntry pattern).symm.trans h) (by decide)
  have htranslated : Entry.TranslatesExempt (patternGroup pattern translated note tag).entries
      ⟨"pattern", translated, note, none⟩ :=
    ⟨rfl, _, List.mem_cons_self, rfl, isExempt_patternEntry pattern⟩
  refine ⟨rfl, rfl, .cons hpattern (.cons ⟨rfl, rfl, fun _ => rfl, fun _ => rfl⟩
    (.cons ⟨rfl, rfl, nofun, fun _ => rfl⟩ .nil)), .cons ⟨rfl, ?_⟩ .nil⟩
  exact .cons ⟨rfl, rfl, fun h => absurd htranslated h⟩
    (.cons ⟨rfl, rfl, fun _ => rfl⟩ (.cons ⟨rfl, rfl, fun _ => rfl⟩ .nil))

def patternResult : GroupResult where
  items :=
    [⟨"pattern", "[a-z]+", stringType, .suppressed, []⟩,
      ⟨"greeting", "Hello, {0}!", stringType, .parameterized [⟨"string", "name"⟩], [0]⟩,
      ⟨"logo", "content of the file: \"logo.png\"", "Bitmap", .plain, []⟩]
  result :=
    ⟨[], [(Finding.satellitePlaceholderMismatch "greeting" "Strings.resx" "Strings.de.resx" 1
      []).asWarning (some "Strings.de.resx")]⟩

/-- Another pattern and another translation of it, both malformed as format strings, and other
notes and tags leave the warning and the items as they are. -/
theorem only_declared_matters_pattern :
    groupInto none (patternGroup "[a-z]+" "[a-zäöü]+" none "ResXFileRef") =
        .ok (patternResult, none) ∧
      ∃ r, groupInto none (patternGroup "\x7b\x7d" "\x7d" (some "\x7bdeclared\x7d") "") =
          .ok (r, none) ∧
        patternResult.Alike r := by
  have hrun : groupInto none (patternGroup "[a-z]+" "[a-zäöü]+" none "ResXFileRef") =
      .ok (patternResult, none) := by decide +kernel
  have halike := only_declared_matters (alike_patternGroup "[a-z]+" "\x7b\x7d" "[a-zäöü]+" "\x7d"
    none (some "\x7bdeclared\x7d") "ResXFileRef" "") none
  rcases halike.dest with ⟨failure, hfailed, -⟩ | ⟨out, ⟨r, after⟩, hout, hother, hr, hafter⟩
  · cases hrun.symm.trans hfailed
  · cases hrun.symm.trans hout
    cases hafter
    exact ⟨hrun, r, hother, hr⟩

end Check

end ResourceAudit
