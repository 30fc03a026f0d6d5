import ResourceAudit.Proofs.Check.Decomposition

/-!
# Untranslated copies

A satellite that repeats the names, values and types of a valid base is consistent with
it, whatever the modes of its entries: the checks of the base entries have established all
that the verification asks for. Only the warnings about specifiers on text come again
(`untranslated_copy_consistent`).
-/

namespace ResourceAudit.Check

/-- The same entry but for the comment. -/
structure IsCopy (b l : Entry) : Prop where
  name_eq : l.name = b.name
  value_eq : l.value = b.value
  type_eq : l.type = b.type

/-- What of a base is reported again about a copy of it. -/
def echoed (file : String) (ds : List Diagnostic) : List Diagnostic :=
  (ds.filter (·.code == .specifierOnText)).map (Diagnostic.addressed (some file))

theorem echoed_flatten (file : String) (dss : List (List Diagnostic)) :
    echoed file dss.flatten = (dss.map (echoed file)).flatten := by
  unfold echoed
  rw [List.filter_flatten, List.map_flatten, List.map_map]
  rfl

theorem isClean_echoed {file : String} {ds : List Diagnostic} (h : isClean ds = true) :
    isClean (echoed file ds) = true := by
  unfold echoed
  rw [isClean_addressed, isClean_iff]
  intro d hd
  exact isClean_iff.mp h d (List.mem_of_mem_filter hd)

/-! ## One entry -/

variable {policy : Policy} {addressee : Option String} {ref : Reference} {file : String}
  {b l : Entry} {out : EntryOutcome}

/-- Only specifiers on text are found without an error. -/
theorem echoed_reportAll {name value : String} {parameters : List Parameter}
    {uses : List (Int × String)} {found : List Finding}
    (h : specifiers name value parameters uses = .ok found)
    (hclean : isClean (reportAll addressee found) = true) :
    echoed file (reportAll addressee found) = reportAll (some file) found := by
  have hall : ∀ d ∈ reportAll addressee found, (d.code == .specifierOnText) = true := by
    intro d hd
    have hwarning := isClean_iff.mp hclean d hd
    obtain ⟨f, hf, rfl⟩ := List.mem_map.mp hd
    rcases code_of_mem_specifiers h hf with hcode | hcode
    · cases f with
      | invalidFormatSpecifier => exact Bool.noConfusion hwarning
      | _ => exact Code.noConfusion hcode
    · exact beq_iff_eq.mpr hcode
  unfold echoed
  rw [List.filter_eq_self.mpr hall, reportAll_addressed (some file) addressee]

/-- An outcome with an item of type string against which a copy only echoes. -/
def EchoesString (ref : Reference) (file : String) (l : Entry) (out : EntryOutcome) : Prop :=
  ∃ item, out.item = some item ∧ item.type = stringType ∧
    localizedValue ref file l item = .ok (echoed file out.diagnostics)

/-- The values that the item expects are those of the base value itself. -/
theorem echoes_plainEntry (hvalue : l.value = b.value)
    (hscan : (Format.scan b.value).error = none)
    (hclean : isClean (plainEntry policy addressee b (Format.scan b.value)).diagnostics = true) :
    EchoesString ref file l (plainEntry policy addressee b (Format.scan b.value)) := by
  have hlocal : localizedValue ref file l (plainItem b (Format.scan b.value)) = .ok [] := by
    show localizedFormat ref file l _ = _
    have hexact : (Format.scan b.value).usesExactly
        (plainItem b (Format.scan b.value)).expectedPlaceholders = true :=
      beq_self_eq_true _
    rw [localizedFormat_scanned (hvalue.symm ▸ hscan), hvalue, if_pos hexact]
    have hspecifiers : specifiers l.name b.value [] (signedUses (Format.scan b.value)) = .ok [] :=
      specifiers_nil _
    exact congrArg (Except.map _) hspecifiers
  by_cases hunused : (Format.scan b.value).indexes = []
  · rw [plainEntry_unused hunused]
    exact ⟨_, rfl, rfl, hlocal⟩
  · rw [plainEntry_used hunused] at hclean ⊢
    cases policy with
    | strict => exact Bool.noConfusion hclean
    | lenient => exact ⟨_, rfl, rfl, hlocal⟩

theorem echoes_parameterizedEntry {parameters : List Parameter} (hname : l.name = b.name)
    (hvalue : l.value = b.value) (hscan : (Format.scan b.value).error = none)
    (h : parameterizedEntry addressee b (Format.scan b.value) parameters = .ok out)
    (hclean : isClean out.diagnostics = true) : EchoesString ref file l out := by
  cases hindex : indexFinding? b.name (Format.scan b.value) parameters.length with
  | some f =>
      rw [parameterizedEntry_found hindex] at h
      cases h
      exact Bool.noConfusion hclean
  | none =>
      rw [parameterizedEntry_exact hindex] at h
      obtain ⟨found, hfound, rfl⟩ := Attempt.map_eq_ok.mp h
      dsimp only at hclean
      refine ⟨_, if_pos hclean, rfl, ?_⟩
      -- The index check has established what the copy is asked for.
      have hindexes := (indexFinding?_eq_none_iff.mp hindex).2
      have hexact : (Format.scan b.value).usesExactly (List.range parameters.length) = true :=
        beq_iff_eq.mpr hindexes
      show localizedFormat ref file l _ = _
      rw [localizedFormat_scanned (hvalue.symm ▸ hscan), hvalue, hname,
        Item.expectedPlaceholders_of_parameterized rfl, if_pos hexact,
        Item.parameters_of_parameterized rfl, hfound, echoed_reportAll hfound hclean]
      rfl

theorem echoes_formatEntry {declared : Option (List Parameter)} (hname : l.name = b.name)
    (hvalue : l.value = b.value) (h : formatEntry policy addressee b declared = .ok out)
    (hclean : isClean out.diagnostics = true) : EchoesString ref file l out := by
  cases hscan : (Format.scan b.value).error with
  | some error =>
      rw [formatEntry_malformed hscan] at h
      cases h
      exact Bool.noConfusion hclean
  | none =>
      cases declared with
      | none =>
          rw [formatEntry_none hscan] at h
          cases h
          exact echoes_plainEntry hvalue hscan hclean
      | some parameters =>
          rw [formatEntry_some hscan] at h
          exact echoes_parameterizedEntry hname hvalue hscan h hclean

theorem echoes_stringEntry (hname : l.name = b.name) (hvalue : l.value = b.value)
    (h : stringEntry policy addressee b = .ok out) (hclean : isClean out.diagnostics = true) :
    EchoesString ref file l out := by
  unfold stringEntry at h
  cases hmode : Mode.ofComment b.comment with
  | error refusal =>
      rw [hmode] at h
      cases h
      exact Bool.noConfusion hclean
  | ok mode =>
      rw [hmode] at h
      cases mode with
      | suppressed =>
          cases h
          exact ⟨_, rfl, rfl, rfl⟩
      | enumeration variants =>
          dsimp only at h
          by_cases hallowed : Mode.allows variants b.value = true
          · rw [if_pos hallowed] at h
            cases h
            refine ⟨_, rfl, rfl, congrArg Except.ok (if_pos ?_)⟩
            rw [hvalue]
            exact hallowed
          · rw [if_neg hallowed] at h
            cases h
            exact Bool.noConfusion hclean
      | plain => exact echoes_formatEntry hname hvalue h hclean
      | parameterized parameters => exact echoes_formatEntry hname hvalue h hclean

/-- **A copy of one entry.** A base entry that is checked without an error yields an item,
and its copy is verified against this item with the same warnings about specifiers. -/
theorem localizedItem_of_copy (ref : Reference) (file : String) (hcopy : IsCopy b l)
    (h : entry policy addressee b = .ok out) (hclean : isClean out.diagnostics = true) :
    ∃ item, out.item = some item ∧
      localizedItem ref file l item = .ok (echoed file out.diagnostics) := by
  have hsame : l.isInclude = b.isInclude := congrArg Option.isSome hcopy.type_eq
  unfold entry at h
  by_cases hinclude : b.isInclude = true
  · rw [if_pos hinclude] at h
    cases h
    unfold includeEntry at hclean ⊢
    cases hparse : Inclusion.parse? b.value with
    | none =>
        rw [hparse] at hclean
        exact Bool.noConfusion hclean
    | some inclusion =>
        refine ⟨inclusionItem b inclusion, rfl, ?_⟩
        have htype : entryType? l = some inclusion.type := by
          rw [entryType?, hsame, if_pos hinclude, hcopy.value_eq, hparse]
          rfl
        unfold localizedItem
        rw [htype, hsame, hinclude]
        exact (if_neg (not_not.mpr rfl)).trans (if_pos rfl)
  · rw [if_neg hinclude] at h
    have hechoes : EchoesString ref file l out :=
      echoes_stringEntry hcopy.name_eq hcopy.value_eq h hclean
    obtain ⟨item, hitem, htype, hlocal⟩ := hechoes
    refine ⟨item, hitem, ?_⟩
    have hstring : l.type = none := by
      rw [hcopy.type_eq]
      exact Option.not_isSome_iff_eq_none.mp hinclude
    rw [localizedItem_string hstring htype, hlocal]

/-! ## A file -/

variable {baseFile : String} {entries ls : List Entry} {cs : List Contribution}

/-- Each copy is verified against the item of its own base entry. -/
theorem localizedEntries_of_copies
    (hbase : List.Forall₂
      (fun b c => (entry policy (some baseFile) b).map (contributionOf baseFile b) = .ok c)
      entries cs)
    (hcopies : List.Forall₂ IsCopy entries ls)
    (hclean : ∀ c ∈ cs, isClean (Event.diagnostics c.events) = true)
    (hfind : ∀ c ∈ cs, ∀ item, c.item = some item → Item.find? item.name ref.items = some item) :
    ls.mapM (localizedEntry ref file) =
      .ok (cs.map fun c => echoed file (Event.diagnostics c.events)) := by
  -- The induction is on the base as it was checked; the copies are walked in step with it.
  induction hbase generalizing ls with
  | nil =>
      cases hcopies
      rfl
  | @cons b c bs cs hentry _ ih =>
      cases hcopies with
      | @cons _ l _ ls hcopy hcopies =>
          rw [List.forall_mem_cons] at hclean hfind
          obtain ⟨out, hout, rfl⟩ := Attempt.map_eq_ok.mp hentry
          have hbclean := hclean.1
          rw [diagnostics_contributionOf] at hbclean
          obtain ⟨item, hitem, hlocal⟩ := localizedItem_of_copy ref file hcopy hout hbclean
          have hfound : Item.find? l.name ref.items = some item := by
            rw [hcopy.name_eq, ← name_of_entry hout hitem]
            exact hfind.1 item ((item_contributionOf b out).trans hitem)
          have hhead : localizedEntry ref file l = .ok (echoed file out.diagnostics) := by
            unfold localizedEntry
            rw [hfound]
            exact hlocal
          rw [List.mapM_cons, hhead, ih hcopies hclean.2 hfind.2, List.map_cons,
            diagnostics_contributionOf]
          rfl

theorem names_of_copies (hcopies : List.Forall₂ IsCopy entries ls) :
    ls.map Entry.name = entries.map Entry.name := by
  induction hcopies with
  | nil => rfl
  | cons hcopy _ ih => rw [List.map_cons, List.map_cons, hcopy.name_eq, ih]

/-- A copy of a clean base reports what the base reports about specifiers on text. -/
theorem satelliteEntries_of_copy {s : Satellite}
    (hbase : baseEntries policy baseFile entries = .ok cs)
    (hclean : isClean (Event.diagnostics (baseEvents [] cs)) = true)
    (hcopies : List.Forall₂ IsCopy entries s.entries) :
    satelliteEntries ⟨policy, baseFile, itemsOf cs⟩ s =
      .ok (echoed s.file (Event.diagnostics (baseEvents [] cs))) := by
  have hnodup : (entries.map Entry.name).Nodup := nodup_of_isClean hbase hclean
  have hitems : ((itemsOf cs).map Item.name).Nodup := (sublist_names hbase).nodup hnodup
  have hfind : ∀ c ∈ cs, ∀ item, c.item = some item →
      Item.find? item.name (itemsOf cs) = some item := by
    intro c hc item hitem
    exact Item.find?_of_nodup hitems (List.mem_filterMap.mpr ⟨c, hc, hitem⟩)
  have hchecked := hbase
  rw [baseEntries_of_nodup hnodup] at hchecked
  rw [satelliteEntries_of_nodup (names_of_copies hcopies ▸ hnodup)]
  unfold satellite
  rw [localizedEntries_of_copies (Attempt.mapM_eq_ok.mp hchecked) hcopies
    (isClean_baseEvents.mp hclean) hfind, diagnostics_baseEvents, echoed_flatten, List.map_map]
  rfl

/-! ## A group -/

variable {run : GroupRun} {s : Satellite}

theorem group_alone (h : group policy baseFile entries [] = .ok run) (hvalid : run.isValid = true) :
    ∃ cs, baseEntries policy baseFile entries = .ok cs ∧
      isClean (Event.diagnostics (baseEvents [] cs)) = true ∧ run.items = itemsOf cs ∧
      Event.diagnostics run.events = Event.diagnostics (baseEvents [] cs) := by
  obtain ⟨cs, dss, hbase, hclean, hdss, -, hitems, hevents⟩ := group_valid h hvalid
  rw [List.mapM_nil] at hdss
  obtain rfl : [] = dss := Except.ok.inj hdss
  refine ⟨cs, hbase, hclean, hitems, ?_⟩
  rw [hevents, List.flatten_nil, List.append_nil]

/-- A base alone reports for its own file only. -/
theorem file_of_group_alone (h : group policy baseFile entries [] = .ok run)
    (hvalid : run.isValid = true) {d : Diagnostic} (hd : d ∈ Event.diagnostics run.events) :
    d.file = some baseFile := by
  obtain ⟨cs, hbase, -, -, hevents⟩ := group_alone h hvalid
  rw [hevents, diagnostics_baseEvents] at hd
  have htraces := traces_baseEntries policy baseFile entries
  rw [hbase] at htraces
  exact file_of_baseTraces (g := ⟨policy, baseFile, entries, []⟩) htraces.symm hd

/-- A valid run of the base alone, continued with a copy. -/
theorem group_with_copy (h : group policy baseFile entries [] = .ok run)
    (hvalid : run.isValid = true) (hcopies : List.Forall₂ IsCopy entries s.entries) :
    ∃ run', group policy baseFile entries [s] = .ok run' ∧ run'.isValid = true ∧
      run'.items = run.items ∧
      Event.diagnostics run'.events =
        Event.diagnostics run.events ++ echoed s.file (Event.diagnostics run.events) := by
  obtain ⟨cs, hbase, hclean, hitems, hevents⟩ := group_alone h hvalid
  have hcopied := satelliteEntries_of_copy hbase hclean hcopies
  rw [← hevents] at hcopied
  let run' : GroupRun := checkedRun baseFile cs [echoed s.file (Event.diagnostics run.events)]
  have hrun' : group policy baseFile entries [s] = .ok run' := by
    rw [group_checked hbase hclean, List.mapM_cons, List.mapM_nil, hcopied]
    rfl
  have hdiagnostics : Event.diagnostics run'.events =
      Event.diagnostics run.events ++ echoed s.file (Event.diagnostics run.events) := by
    rw [diagnostics_checkedRun, List.flatten_singleton, ← hevents]
  have hvalid' : run'.isValid = true := by
    rw [← hevents] at hclean
    rw [GroupRun.isValid_eq_isClean, hdiagnostics, isClean_append, hclean, isClean_echoed hclean]
    rfl
  exact ⟨run', hrun', hvalid', (items_checkedRun hvalid').trans hitems.symm, hdiagnostics⟩

/-! ## Results by file -/

theorem forFile_ofDiagnostics (file : Option String) (ds : List Diagnostic) :
    (Result.ofDiagnostics ds).forFile file = .ofDiagnostics (ds.filter (·.file == file)) :=
  congrArg₂ Result.mk (List.filter_comm _ _ ds) (List.filter_comm _ _ ds)

theorem filter_file_self {ds : List Diagnostic} {address : Option String}
    (h : ∀ d ∈ ds, d.file = address) : ds.filter (·.file == address) = ds :=
  List.filter_eq_self.mpr fun d hd => beq_iff_eq.mpr (h d hd)

theorem filter_file_other {ds : List Diagnostic} {address other : Option String}
    (h : ∀ d ∈ ds, d.file = address) (hother : address ≠ other) :
    ds.filter (·.file == other) = [] := by
  refine List.filter_eq_nil_iff.mpr ?_
  intro d hd hfile
  exact hother ((h d hd).symm.trans (beq_iff_eq.mp hfile))

theorem file_of_mem_echoed {ds : List Diagnostic} {d : Diagnostic} (hd : d ∈ echoed file ds) :
    d.file = some file := by
  obtain ⟨d, -, rfl⟩ := List.mem_map.mp hd
  exact Diagnostic.file_addressed _ d

/-- **Untranslated copies are consistent.** Let a base alone be valid, and let a satellite
have the same names, values and types. Then base and satellite are valid together with the
same items, and all that is reported for the satellite are the warnings about specifiers on
text that are reported for the base. -/
theorem untranslated_copy_consistent {sink after : Option Sink} {r : GroupResult}
    (h : groupInto sink ⟨policy, baseFile, entries, []⟩ = .ok (r, after))
    (hvalid : r.result.isValid = true) (hcopies : List.Forall₂ IsCopy entries s.entries) :
    ∃ r' after', groupInto sink ⟨policy, baseFile, entries, [s]⟩ = .ok (r', after') ∧
      r'.result.isValid = true ∧ r'.items = r.items ∧
      (s.file ≠ baseFile →
        r'.result.forFile (some baseFile) = r.result ∧
          r'.result.forFile (some s.file) =
            ⟨[], echoed s.file (r'.result.forFile (some baseFile)).warnings⟩) := by
  rw [groupInto_eq] at h
  obtain ⟨run, hrun, hr⟩ := Attempt.map_eq_ok.mp h
  cases hr
  obtain ⟨run', hrun', hvalid', hitems, hevents⟩ := group_with_copy hrun hvalid hcopies
  refine ⟨resultOf run', sink.map run'.forward, ?_, hvalid', hitems, ?_⟩
  · rw [groupInto_eq]
    unfold checkAlone
    rw [hrun']
    rfl
  · intro hother
    have hclean : isClean (Event.diagnostics run.events) = true :=
      (GroupRun.isValid_eq_isClean run).symm.trans hvalid
    have hbase : ∀ d ∈ Event.diagnostics run.events, d.file = some baseFile :=
      fun d hd => file_of_group_alone hrun hvalid hd
    have hcopy : ∀ d ∈ echoed s.file (Event.diagnostics run.events), d.file = some s.file :=
      fun d hd => file_of_mem_echoed hd
    have hbaseResult : run'.result.forFile (some baseFile) = run.result := by
      show (Result.ofDiagnostics _).forFile _ = _
      rw [forFile_ofDiagnostics, hevents, List.filter_append, filter_file_self hbase,
        filter_file_other hcopy (fun h => hother (Option.some.inj h)), List.append_nil]
      rfl
    refine ⟨hbaseResult, ?_⟩
    show run'.result.forFile (some s.file) =
      ⟨[], echoed s.file (run'.result.forFile (some baseFile)).warnings⟩
    rw [hbaseResult, GroupRun.warnings_of_isValid hvalid]
    show (Result.ofDiagnostics _).forFile _ = _
    rw [forFile_ofDiagnostics, hevents, List.filter_append, filter_file_self hcopy,
      filter_file_other hbase (fun h => hother (Option.some.inj h).symm), List.nil_append]
    exact Result.ofDiagnostics_of_isClean (isClean_echoed hclean)

def diaryEntries : List Entry :=
  [⟨"greeting", "Hello, {0:u}!", some "{string name}", none⟩,
    ⟨"progress", "{3} of {7}", none, none⟩,
    ⟨"notes", "notes.txt;string, mscorlib", none, some "System.Resources.ResXFileRef"⟩]

/-- The comments of a satellite are not read. -/
def diaryCopy : Satellite :=
  ⟨"Strings.de.resx", diaryEntries.map fun e => { e with comment := some "!untranslated" }⟩

def textWarning (file : String) : Diagnostic :=
  (Finding.specifierOnText "greeting" "u" "name" "Hello, {0:u}!").asWarning (some file)

def diaryResult : GroupResult where
  items :=
    [⟨"greeting", "Hello, {0:u}!", stringType, .parameterized [⟨"string", "name"⟩], [0]⟩,
      ⟨"progress", "{3} of {7}", stringType, .plain, [3, 7]⟩,
      ⟨"notes", "content of the file: \"notes.txt\"", stringType, .plain, []⟩]
  result :=
    ⟨[], [textWarning "Strings.resx",
      (Finding.parametersDeclarationMissing "progress").asWarning (some "Strings.resx")]⟩

theorem untranslated_copy_consistent_diary :
    groupInto none ⟨.lenient, "Strings.resx", diaryEntries, []⟩ = .ok (diaryResult, none) ∧
      ∃ r after, groupInto none ⟨.lenient, "Strings.resx", diaryEntries, [diaryCopy]⟩ =
          .ok (r, after) ∧
        r.result.isValid = true ∧ r.items = diaryResult.items ∧
        r.result.forFile (some "Strings.de.resx") = ⟨[], [textWarning "Strings.de.resx"]⟩ := by
  have hrun : groupInto none ⟨.lenient, "Strings.resx", diaryEntries, []⟩ =
      .ok (diaryResult, none) := by decide +kernel
  have hcopies : List.Forall₂ IsCopy diaryEntries diaryCopy.entries := by
    refine List.forall₂_map_right_iff.mpr (List.forall₂_same.mpr ?_)
    intro e _
    exact ⟨rfl, rfl, rfl⟩
  obtain ⟨r, after, hcopied, hvalid, hitems, hfiles⟩ :=
    untranslated_copy_consistent hrun rfl hcopies
  have hother : diaryCopy.file ≠ "Strings.resx" := by decide
  refine ⟨hrun, r, after, hcopied, hvalid, hitems, ?_⟩
  rw [(hfiles hother).1] at hfiles
  refine (hfiles hother).2.trans ?_
  decide +kernel

end ResourceAudit.Check
