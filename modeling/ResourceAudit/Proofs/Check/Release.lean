import ResourceAudit.Proofs.Check.Group

/-!
# Released values

What generated code may rely on. A valid run releases under the name of each item the
value of the base and those of all satellites. Under the strict policy all of them keep
what the comment of the base entry declares; under the lenient policy a localized value
may differ in its indexes, but then a warning says so.
-/

namespace ResourceAudit.Check

variable {policy : Policy} {baseFile : String} {entries : List Entry}
  {satellites : List Satellite} {run : GroupRun} {item : Item}

/-- An entry of a satellite that localizes an item. -/
structure Localized (satellites : List Satellite) (item : Item) (s : Satellite) (e : Entry) :
    Prop where
  satellite : s ∈ satellites
  entry : e ∈ s.entries
  string : e.type = none
  name : e.name = item.name

/-- The values released under the name of an item. -/
inductive Released (satellites : List Satellite) (item : Item) : String → Prop
  | base : Released satellites item item.value
  | localized {s : Satellite} {e : Entry} (h : Localized satellites item s e) :
      Released satellites item e.value

/-- An item that stems from a string entry of the base. -/
def FromString (entries : List Entry) (item : Item) : Prop :=
  ∃ e ∈ entries, e.type = none ∧ e.name = item.name

/-- What a value keeps of the declaration of its item, by mode. -/
structure Keeps (entries : List Entry) (item : Item) (value : String) : Prop where
  parameterized : ∀ parameters, item.mode = .parameterized parameters → Fits parameters value
  plain : FromString entries item → item.mode = .plain →
    (Format.scan value).error = none ∧ (Format.scan value).items = []
  enumeration : ∀ variants, item.mode = .enumeration variants → Text.strip value ∈ variants

/-- A warning that the indexes of a localized value are not the expected ones. -/
def WarnsOfMismatch (run : GroupRun) (file : String) (item : Item) : Prop :=
  ∃ d ∈ run.result.warnings, d.code = .satellitePlaceholderMismatch ∧ d.file = some file ∧
    d.resource = some item.name

/-! ## One value -/

theorem mem_of_allows {variants : List String} {value : String}
    (h : Mode.allows variants value = true) : Text.strip value ∈ variants :=
  List.contains_iff_mem.mp h

theorem items_eq_nil_of_indexes {s : Format.Scan} (h : s.indexes = []) : s.items = [] := by
  refine List.eq_nil_iff_forall_not_mem.mpr ?_
  intro i hi
  have hindex : i.index ∈ s.indexes := Format.Scan.mem_indexes.mpr (List.mem_map_of_mem hi)
  rw [h] at hindex
  exact absurd hindex List.not_mem_nil

theorem fits_of_admitted {e : Entry} {parameters : List Parameter} (h : Admitted policy e item)
    (hmode : item.mode = .parameterized parameters) : Fits parameters item.value := by
  cases h with
  | parameterized _ _ hfits =>
      cases hmode
      exact hfits
  | _ => cases hmode

theorem keeps_of_admitted {e : Entry} (h : Admitted .strict e item) :
    Keeps entries item item.value := by
  refine ⟨fun parameters hmode => fits_of_admitted h hmode, ?_, ?_⟩
  · intro _ hmode
    cases h with
    | plain _ hscan hunused => exact ⟨hscan, items_eq_nil_of_indexes (hunused rfl)⟩
    | _ => cases hmode
  · intro variants hmode
    cases h with
    | enumeration _ _ hallowed =>
        cases hmode
        exact mem_of_allows hallowed
    | _ => cases hmode

/-- A plain item of a string entry expects no placeholder. -/
theorem expectedPlaceholders_plain {e : Entry} (h : Admitted .strict e item)
    (hmode : item.mode = .plain) : item.expectedPlaceholders = [] := by
  cases h with
  | plain _ _ hunused => exact hunused rfl
  | _ => cases hmode

/-! ## One localized value -/

variable {ref : Reference} {file : String} {e : Entry} {ds : List Diagnostic}

theorem indexes_of_localizes {parameters : List Parameter}
    (h : (Format.scan e.value).indexes = item.expectedPlaceholders)
    (hmode : item.mode = .parameterized parameters) : IndexesFit parameters e.value := by
  rw [Item.expectedPlaceholders_of_parameterized hmode] at h
  exact (indexes_eq_range_iff _ _).mp h

/-- A localized value of a parameterized item fits the declaration as far as the
verification goes, and a difference in its indexes was reported. -/
theorem fits_of_localizes {parameters : List Parameter} (h : Localizes ref file e item ds)
    (hmode : item.mode = .parameterized parameters) :
    (Format.scan e.value).error = none ∧ SpecifiersFit parameters e.value ∧
      (IndexesFit parameters e.value ∨ mismatch ref file e item ∈ ds) := by
  cases h with
  | suppressed hother => cases hmode.symm.trans hother
  | enumeration variants hother => cases hmode.symm.trans hother
  | formatted _ hscan hspecifiers hindexes =>
      rw [Item.parameters_of_parameterized hmode] at hspecifiers
      exact ⟨hscan, hspecifiers, hindexes.imp_left fun heq => indexes_of_localizes heq hmode⟩

theorem keeps_of_localizes {b : Entry} (hitem : Admitted .strict b item)
    (h : Localizes ref file e item ds) (hpolicy : ref.policy = .strict)
    (hclean : isClean ds = true) : Keeps entries item e.value := by
  have hnone : mismatch ref file e item ∉ ds := mismatch_not_mem hpolicy hclean
  refine ⟨?_, ?_, ?_⟩
  · intro parameters hmode
    obtain ⟨hscan, hspecifiers, hindexes⟩ := fits_of_localizes h hmode
    have hdeclared : 1 ≤ parameters.length := (fits_of_admitted hitem hmode).declared
    exact ⟨hdeclared, hscan, hindexes.resolve_right hnone, hspecifiers⟩
  · intro _ hmode
    cases h with
    | suppressed hother => cases hmode.symm.trans hother
    | enumeration variants hother => cases hmode.symm.trans hother
    | formatted _ hscan _ hindexes =>
        refine ⟨hscan, items_eq_nil_of_indexes ?_⟩
        rw [hindexes.resolve_right hnone]
        exact expectedPlaceholders_plain hitem hmode
  · intro variants hmode
    cases h with
    | suppressed hother => cases hmode.symm.trans hother
    | enumeration others hother hallowed =>
        cases hmode.symm.trans hother
        exact mem_of_allows hallowed
    | formatted hother =>
        rcases hother with hother | ⟨parameters, hother⟩
        · cases hmode.symm.trans hother
        · cases hmode.symm.trans hother

/-! ## Valid runs -/

/-- The entry of the base that an item of a run stems from. -/
theorem exists_base_of_item (h : group policy baseFile entries satellites = .ok run)
    (hvalid : run.isValid = true) (hitem : item ∈ run.items) :
    ∃ b ∈ entries, b.name = item.name ∧
      ((b.isInclude = true ∧ item.mode = .plain) ∨ Admitted policy b item) := by
  obtain ⟨cs, dss, hcs, -, -, -, hitems, -⟩ := group_valid h hvalid
  rw [hitems] at hitem
  obtain ⟨b, hb, out, hout, hyield⟩ := exists_entry_of_item hcs hitem
  refine ⟨b, hb, (name_of_entry hout hyield).symm, ?_⟩
  rcases item_of_entry hout hyield with ⟨hinclude, inclusion, -, rfl⟩ | ⟨-, hadmitted⟩
  · exact Or.inl ⟨hinclude, rfl⟩
  · exact Or.inr hadmitted

theorem nodup_entries (h : group policy baseFile entries satellites = .ok run)
    (hvalid : run.isValid = true) : (entries.map Entry.name).Nodup := by
  obtain ⟨cs, dss, hcs, hclean, -⟩ := group_valid h hvalid
  exact nodup_of_isClean hcs hclean

/-- Every localization of an item of a valid run was verified against that item, and
what was reported about it is among the warnings of the run. -/
theorem exists_localizes (h : group policy baseFile entries satellites = .ok run)
    (hvalid : run.isValid = true) (hitem : item ∈ run.items) {s : Satellite}
    (he : Localized satellites item s e) :
    ∃ items ds, isClean ds = true ∧ ds ⊆ run.result.warnings ∧
      Localizes ⟨policy, baseFile, items⟩ s.file e item ds := by
  obtain ⟨cs, dss, hcs, hclean, hdss, hverified, hitems, hevents⟩ := group_valid h hvalid
  obtain ⟨es, hes, hsatellite⟩ := Attempt.exists_of_mem hdss he.satellite
  have hesclean : isClean es = true := isClean_flatten.mp hverified es hes
  obtain ⟨ds, hds, hsubset⟩ := localizedEntry_of_isClean hsatellite hesclean he.entry
  have hdsclean : isClean ds = true :=
    isClean_iff.mpr fun d hd => isClean_iff.mp hesclean d (hsubset hd)
  refine ⟨itemsOf cs, ds, hdsclean, ?_, ?_⟩
  · intro d hd
    rw [GroupRun.warnings_of_isValid hvalid, hevents]
    exact List.mem_append_right _ (List.mem_flatten_of_mem hes (hsubset hd))
  · -- No name is repeated among the items, so the name of the entry leads to `item`.
    have hnodup : ((itemsOf cs).map Item.name).Nodup :=
      (sublist_names hcs).nodup (nodup_of_isClean hcs hclean)
    have hfind : Item.find? e.name (itemsOf cs) = some item := by
      rw [he.name]
      exact Item.find?_of_nodup hnodup (hitems ▸ hitem)
    exact (localizes_of_localizedEntry hds hdsclean he.string hfind).2

/-- The item of an include entry promises nothing about its values. -/
theorem keeps_of_include {b : Entry} {value : String} (hnodup : (entries.map Entry.name).Nodup)
    (hb : b ∈ entries) (hname : b.name = item.name) (hinclude : b.isInclude = true)
    (hmode : item.mode = .plain) : Keeps entries item value := by
  refine ⟨?_, ?_, ?_⟩
  · intro parameters hother
    cases hmode.symm.trans hother
  · -- Names differ, so no string entry stands beside the include entry.
    rintro ⟨e, he, hstring, hnames⟩ _
    have hsame : e = b := List.inj_on_of_nodup_map hnodup he hb (hnames.trans hname.symm)
    subst hsame
    rw [isInclude_of_type hstring] at hinclude
    exact Bool.noConfusion hinclude
  · intro variants hother
    cases hmode.symm.trans hother

/-- A valid strict run releases nothing but values that keep the declaration. -/
theorem keeps_of_released (h : group .strict baseFile entries satellites = .ok run)
    (hvalid : run.isValid = true) (hitem : item ∈ run.items) {value : String}
    (hvalue : Released satellites item value) : Keeps entries item value := by
  obtain ⟨b, hb, hname, ⟨hinclude, hmode⟩ | hadmitted⟩ := exists_base_of_item h hvalid hitem
  · exact keeps_of_include (nodup_entries h hvalid) hb hname hinclude hmode
  · cases hvalue with
    | base => exact keeps_of_admitted hadmitted
    | localized he =>
        obtain ⟨items, ds, hclean, -, hlocalizes⟩ := exists_localizes h hvalid hitem he
        exact keeps_of_localizes hadmitted hlocalizes rfl hclean

/-- Whatever the policy, the base value of a parameterized item fits its declaration. -/
theorem fits_of_item (h : group policy baseFile entries satellites = .ok run)
    (hvalid : run.isValid = true) (hitem : item ∈ run.items) {parameters : List Parameter}
    (hmode : item.mode = .parameterized parameters) : Fits parameters item.value := by
  obtain ⟨b, -, -, ⟨-, hother⟩ | hadmitted⟩ := exists_base_of_item h hvalid hitem
  · cases hmode.symm.trans hother
  · exact fits_of_admitted hadmitted hmode

/-- **What a valid run releases.** Under the strict policy all values keep the declaration
of their item. Under any policy the values of a parameterized item scan, its base value
fits the declaration, and so does a localized value unless a warning says that its
indexes differ. -/
theorem released_values_conform (h : group policy baseFile entries satellites = .ok run)
    (hvalid : run.isValid = true) (hitem : item ∈ run.items) :
    (policy = .strict → ∀ value, Released satellites item value → Keeps entries item value) ∧
      ∀ parameters, item.mode = .parameterized parameters → Fits parameters item.value ∧
        ∀ s e, Localized satellites item s e →
          (Format.scan e.value).error = none ∧ SpecifiersFit parameters e.value ∧
            (IndexesFit parameters e.value ∨ WarnsOfMismatch run s.file item) := by
  refine ⟨?_, ?_⟩
  · rintro rfl value hvalue
    exact keeps_of_released h hvalid hitem hvalue
  · intro parameters hmode
    refine ⟨fits_of_item h hvalid hitem hmode, ?_⟩
    intro s e he
    obtain ⟨items, ds, -, hwarnings, hlocalizes⟩ := exists_localizes h hvalid hitem he
    obtain ⟨hscan, hspecifiers, hindexes⟩ := fits_of_localizes hlocalizes hmode
    refine ⟨hscan, hspecifiers, hindexes.imp_right ?_⟩
    intro hmem
    exact ⟨_, hwarnings hmem, rfl, rfl, congrArg some he.name⟩

/-! ## A group of one greeting -/

def greetingEntries : List Entry :=
  [⟨"greeting", "Hello, {0}! {1:N2}", some "{string name, int score}", none⟩]

def germanGreeting : Entry := ⟨"greeting", "{1:N0} Punkte, {0}!", none, none⟩

def greetingSatellites : List Satellite := [⟨"Strings.de.resx", [germanGreeting]⟩]

def greetingItem : Item :=
  ⟨"greeting", "Hello, {0}! {1:N2}", stringType,
    .parameterized [⟨"string", "name"⟩, ⟨"int", "score"⟩], [0, 1]⟩

def greetingRun : GroupRun :=
  ⟨[greetingItem],
    [progress .info "Validated Strings.resx: 1 item(s), 0 error(s), 0 warning(s)"]⟩

theorem released_values_conform_greeting :
    group .strict "Strings.resx" greetingEntries greetingSatellites = .ok greetingRun ∧
      greetingRun.isValid = true ∧ greetingItem ∈ greetingRun.items ∧
      Released greetingSatellites greetingItem germanGreeting.value ∧
      Keeps greetingEntries greetingItem germanGreeting.value := by
  have hrun : group .strict "Strings.resx" greetingEntries greetingSatellites =
      .ok greetingRun := by decide +kernel
  have hvalid : greetingRun.isValid = true := by decide +kernel
  have hitem : greetingItem ∈ greetingRun.items := List.mem_singleton_self _
  have hlocalized : Localized greetingSatellites greetingItem
      ⟨"Strings.de.resx", [germanGreeting]⟩ germanGreeting :=
    ⟨List.mem_singleton_self _, List.mem_singleton_self _, rfl, rfl⟩
  exact ⟨hrun, hvalid, hitem, .localized hlocalized,
    (released_values_conform hrun hvalid hitem).1 rfl _ (.localized hlocalized)⟩

end ResourceAudit.Check
