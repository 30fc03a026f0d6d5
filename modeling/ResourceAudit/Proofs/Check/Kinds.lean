import ResourceAudit.Proofs.Check.Entry
import ResourceAudit.Proofs.Check.Satellite

/-!
# Include entries and string entries

An item remembers what kind of entry it stems from by its type text alone, and the type of
an include entry is free text in its value. So the kinds are told apart exactly as long as
that text is not the type of strings (`kinds_told_apart`). An include entry of type "string"
passes for a string entry on either side of the verification (`text_include_passes`).
-/

namespace ResourceAudit.Check

/-- An include entry with a proper value. -/
structure Includes (e : Entry) (inclusion : Inclusion) : Prop where
  tagged : e.isInclude = true
  reads : Inclusion.parse? e.value = some inclusion

/-- Exactly one of two entries is an include entry, and this one has a proper value. -/
inductive Mixed (b l : Entry) (inclusion : Inclusion) : Prop
  | base (hbase : Includes b inclusion) (hlocal : l.isInclude = false)
  | localized (hbase : b.isInclude = false) (hlocal : Includes l inclusion)

variable {policy : Policy} {addressee : Option String} {b l : Entry} {inclusion : Inclusion}
  {out : EntryOutcome} {item : Item} {ref : Reference} {file : String} {ds : List Diagnostic}

/-- The diagnostic about a localized entry of another type than its item. -/
def typeMismatch (ref : Reference) (file : String) (l : Entry) : Diagnostic :=
  (Finding.satelliteTypeMismatch l.name ref.baseFile file).asError (some file)

/-! ## The base -/

theorem entry_of_includes (h : Includes b inclusion) :
    entry policy addressee b = .ok (.accepted (inclusionItem b inclusion)) := by
  unfold entry includeEntry
  rw [if_pos h.tagged, h.reads]
  rfl

/-- The item of an include entry passes for a string only through its type. -/
theorem isString_inclusionItem :
    (inclusionItem b inclusion).isString = true ↔ inclusion.type = stringType :=
  beq_iff_eq

theorem type_of_includes (h : Includes b inclusion) (hout : entry policy addressee b = .ok out)
    (hitem : out.item = some item) : item.mode = .plain ∧ item.type = inclusion.type := by
  rw [entry_of_includes h] at hout
  cases hout
  cases hitem
  exact ⟨rfl, rfl⟩

theorem type_of_string (h : b.isInclude = false) (hout : entry policy addressee b = .ok out)
    (hitem : out.item = some item) : item.type = stringType := by
  rcases item_of_entry hout hitem with ⟨hinclude, -⟩ | ⟨-, hadmitted⟩
  · rw [h] at hinclude
    exact Bool.noConfusion hinclude
  · exact hadmitted.type_eq

/-! ## The satellite -/

theorem entryType?_of_includes (h : Includes l inclusion) : entryType? l = some inclusion.type := by
  unfold entryType?
  rw [if_pos h.tagged, h.reads]
  rfl

theorem localizedItem_of_type_ne {type : String} (htype : entryType? l = some type)
    (hne : type ≠ item.type) : localizedItem ref file l item = .ok [typeMismatch ref file l] := by
  unfold localizedItem
  rw [htype]
  exact if_pos hne

theorem localizedItem_of_includes (h : Includes l inclusion) (heq : inclusion.type = item.type) :
    localizedItem ref file l item = .ok [] := by
  unfold localizedItem
  rw [entryType?_of_includes h, h.tagged]
  exact (if_neg (not_not.mpr heq)).trans (if_pos rfl)

/-- Nothing that a plain value is asked for is a matter of its type. -/
theorem localizedFormat_of_plain (hmode : item.mode = .plain) :
    ∃ ds, localizedFormat ref file l item = .ok ds ∧
      ∀ d ∈ ds, d.code ≠ .satelliteTypeMismatch := by
  cases hscan : (Format.scan l.value).error with
  | some error =>
      refine ⟨_, localizedFormat_malformed hscan, ?_⟩
      intro d hd
      rw [List.mem_singleton.mp hd]
      exact nofun
  | none =>
      rw [localizedFormat_scanned hscan, Item.parameters_of_plain hmode, specifiers_nil]
      refine ⟨_, rfl, ?_⟩
      intro d hd
      split at hd
      · exact absurd hd List.not_mem_nil
      · rw [List.mem_singleton.mp hd]
        exact nofun

/-! ## Both sides -/

/-- What a mixed pair of entries is reported with: a mismatch unless the include entry
includes text. -/
def ToldApartBy (inclusion : Inclusion) (mismatch : Diagnostic) (own : List Diagnostic) : Prop :=
  (inclusion.type ≠ stringType → own = [mismatch]) ∧
    (inclusion.type = stringType → ∀ d ∈ own, d.code ≠ .satelliteTypeMismatch)

namespace ToldApartBy

variable {mismatch : Diagnostic} {own : List Diagnostic}

theorem reported (hother : inclusion.type ≠ stringType) :
    ToldApartBy inclusion mismatch [mismatch] :=
  ⟨fun _ => rfl, fun htext => absurd htext hother⟩

theorem passed (htext : inclusion.type = stringType)
    (hcodes : ∀ d ∈ own, d.code ≠ .satelliteTypeMismatch) : ToldApartBy inclusion mismatch own :=
  ⟨fun hother => absurd htext hother, fun _ => hcodes⟩

end ToldApartBy

theorem localizedItem_of_base_includes (hbase : Includes b inclusion) (hlocal : l.type = none)
    (hout : entry policy addressee b = .ok out) (hitem : out.item = some item) :
    ∃ own, localizedItem ref file l item = .ok own ∧
      ToldApartBy inclusion (typeMismatch ref file l) own := by
  obtain ⟨hmode, htype⟩ := type_of_includes hbase hout hitem
  by_cases htext : inclusion.type = stringType
  · -- The string is verified as if it localized a string without placeholders.
    obtain ⟨own, hown, hcodes⟩ := localizedFormat_of_plain hmode
    refine ⟨own, ?_, .passed htext hcodes⟩
    rw [localizedItem_string hlocal (htype.trans htext)]
    unfold localizedValue
    rw [hmode]
    exact hown
  · have hne : stringType ≠ item.type := by
      rw [htype]
      exact Ne.symm htext
    exact ⟨_, localizedItem_of_type_ne (entryType?_string hlocal) hne, .reported htext⟩

theorem localizedItem_of_local_includes (hbase : b.isInclude = false)
    (hlocal : Includes l inclusion) (hout : entry policy addressee b = .ok out)
    (hitem : out.item = some item) :
    ∃ own, localizedItem ref file l item = .ok own ∧
      ToldApartBy inclusion (typeMismatch ref file l) own := by
  have htype : item.type = stringType := type_of_string hbase hout hitem
  by_cases htext : inclusion.type = stringType
  · refine ⟨[], localizedItem_of_includes hlocal (htext.trans htype.symm), .passed htext ?_⟩
    intro d hd
    exact absurd hd List.not_mem_nil
  · have hne : inclusion.type ≠ item.type := by
      rw [htype]
      exact htext
    exact ⟨_, localizedItem_of_type_ne (entryType?_of_includes hlocal) hne, .reported htext⟩

theorem localizedItem_of_mixed (hmixed : Mixed b l inclusion)
    (hout : entry policy addressee b = .ok out) (hitem : out.item = some item) :
    ∃ own, localizedItem ref file l item = .ok own ∧
      ToldApartBy inclusion (typeMismatch ref file l) own := by
  cases hmixed with
  | base hbase hlocal =>
      exact localizedItem_of_base_includes hbase (type_of_not_isInclude hlocal) hout hitem
  | localized hbase hlocal => exact localizedItem_of_local_includes hbase hlocal hout hitem

/-- The entries of a satellite are verified one after another. -/
theorem satellite_append (ref : Reference) (file : String) (es fs : List Entry) :
    satellite ref ⟨file, es ++ fs⟩ = do
      let xs ← satellite ref ⟨file, es⟩
      let ys ← satellite ref ⟨file, fs⟩
      return xs ++ ys := by
  unfold satellite
  dsimp only
  rw [List.mapM_append]
  cases es.mapM (localizedEntry ref file) with
  | error failure => rfl
  | ok xss =>
      cases fs.mapM (localizedEntry ref file) with
      | error failure => rfl
      | ok yss => exact congrArg Except.ok List.flatten_append

/-- What is reported about one entry stands between what is reported about the entries
before and after it. -/
theorem satellite_split {before after : List Entry}
    (h : satellite ref ⟨file, before ++ l :: after⟩ = .ok ds) :
    ∃ xs own ys, satellite ref ⟨file, before⟩ = .ok xs ∧ satellite ref ⟨file, [l]⟩ = .ok own ∧
      satellite ref ⟨file, after⟩ = .ok ys ∧ ds = xs ++ own ++ ys := by
  rw [satellite_append] at h
  obtain ⟨xs, hxs, h⟩ := Attempt.bind_eq_ok.mp h
  obtain ⟨rest, hrest, h⟩ := Attempt.bind_eq_ok.mp h
  have hds : xs ++ rest = ds := Except.ok.inj h
  rw [← List.singleton_append, satellite_append] at hrest
  obtain ⟨own, hown, hrest⟩ := Attempt.bind_eq_ok.mp hrest
  obtain ⟨ys, hys, hrest⟩ := Attempt.bind_eq_ok.mp hrest
  have hrest : own ++ ys = rest := Except.ok.inj hrest
  refine ⟨xs, own, ys, hxs, hown, hys, ?_⟩
  rw [← hds, ← hrest, List.append_assoc]

/-- **How the kinds are told apart.** A base entry that includes a file yields an item,
which passes for a string if and only if its type is that of strings. Where a base entry and
a satellite entry of the same name are of different kinds, the satellite entry is reported
as a mismatch, and nothing else, if the included file is not of that type, and otherwise no
mismatch is reported for it. -/
theorem kinds_told_apart (policy : Policy) (addressee : Option String) (b : Entry) :
    (∀ inclusion, Includes b inclusion → ∃ item,
      entry policy addressee b = .ok (.accepted item) ∧
        (item.isString = true ↔ inclusion.type = stringType)) ∧
    ∀ out item, entry policy addressee b = .ok out → out.item = some item →
      ∀ ref : Reference, Item.find? item.name ref.items = some item →
        ∀ l inclusion, l.name = item.name → Mixed b l inclusion → ∀ file, ∃ own,
          satellite ref ⟨file, [l]⟩ = .ok own ∧
            ToldApartBy inclusion (typeMismatch ref file l) own ∧
            ∀ before after ds, satellite ref ⟨file, before ++ l :: after⟩ = .ok ds →
              ∃ xs ys, satellite ref ⟨file, before⟩ = .ok xs ∧
                satellite ref ⟨file, after⟩ = .ok ys ∧ ds = xs ++ own ++ ys := by
  constructor
  · intro inclusion h
    exact ⟨_, entry_of_includes h, isString_inclusionItem⟩
  · intro out item hout hitem ref hfind l inclusion hname hmixed file
    obtain ⟨own, hown, htold⟩ := localizedItem_of_mixed hmixed hout hitem
    have halone : satellite ref ⟨file, [l]⟩ = .ok own := by
      rw [satellite_single]
      unfold localizedEntry
      rw [hname, hfind]
      exact hown
    refine ⟨own, halone, htold, ?_⟩
    intro before after ds hds
    obtain ⟨xs, own', ys, hxs, hown', hys, hsplit⟩ := satellite_split hds
    cases halone.symm.trans hown'
    exact ⟨xs, ys, hxs, hys, hsplit⟩

/-! ## A picture and a text -/

def includeTag : String := "System.Resources.ResXFileRef, System.Windows.Forms"

def logoInclude : Entry :=
  ⟨"logo", "logo.png;System.Drawing.Bitmap, System.Drawing", none, some includeTag⟩

def logoInclusion : Inclusion := ⟨"logo.png", "System.Drawing.Bitmap"⟩

def logoString : Entry := ⟨"logo", "Logo", none, none⟩

def logoReference : Reference :=
  ⟨.strict, "Strings.resx", [inclusionItem logoInclude logoInclusion]⟩

/-- A picture is no string, and a string in its place is a mismatch. -/
theorem kinds_told_apart_logo :
    Includes logoInclude logoInclusion ∧ Mixed logoInclude logoString logoInclusion ∧
      (∃ item, entry .strict none logoInclude = .ok (.accepted item) ∧
        (item.isString = true ↔ logoInclusion.type = stringType)) ∧
      satellite logoReference ⟨"Strings.de.resx", [logoString]⟩ =
        .ok [typeMismatch logoReference "Strings.de.resx" logoString] := by
  have hincludes : Includes logoInclude logoInclusion := ⟨rfl, by decide +kernel⟩
  have hmixed : Mixed logoInclude logoString logoInclusion := .base hincludes rfl
  obtain ⟨hbase, hboth⟩ := kinds_told_apart .strict none logoInclude
  obtain ⟨own, hown, htold, -⟩ := hboth _ _ (entry_of_includes hincludes) rfl logoReference
    (by decide) logoString logoInclusion rfl hmixed "Strings.de.resx"
  have hpicture : logoInclusion.type ≠ stringType := by decide
  rw [htold.1 hpicture] at hown
  exact ⟨hincludes, hmixed, hbase _ hincludes, hown⟩

def notesInclude : Entry := ⟨"notes", "notes.txt;string, mscorlib", none, some includeTag⟩

def notesInclusion : Inclusion := ⟨"notes.txt", "string"⟩

def notesString : Entry := ⟨"notes", "Notizen", none, none⟩

def notesItem : Item := ⟨"notes", "Notizen", stringType, .plain, []⟩

/-- An included text has an item that passes for a string, and text and string pass for each
other in a satellite. -/
theorem text_include_passes :
    Includes notesInclude notesInclusion ∧ notesString.isInclude = false ∧
      entry .strict none notesInclude =
        .ok (.accepted (inclusionItem notesInclude notesInclusion)) ∧
      (inclusionItem notesInclude notesInclusion).isString = true ∧
      satellite ⟨.strict, "Strings.resx", [inclusionItem notesInclude notesInclusion]⟩
        ⟨"Strings.de.resx", [notesString]⟩ = .ok [] ∧
      entry .strict none notesString = .ok (.accepted notesItem) ∧
      satellite ⟨.strict, "Strings.resx", [notesItem]⟩ ⟨"Strings.de.resx", [notesInclude]⟩ =
        .ok [] := by
  have hincludes : Includes notesInclude notesInclusion := ⟨rfl, by decide +kernel⟩
  refine ⟨hincludes, rfl, entry_of_includes hincludes, ?_, ?_, ?_, ?_⟩
  · decide
  · decide +kernel
  · decide +kernel
  · decide +kernel

end ResourceAudit.Check
