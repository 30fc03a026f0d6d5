import ResourceAudit.Proofs.Check.Group

/-!
# The policy only moves gated findings

A check under the strict policy and the same check under the lenient one either end in
the same way, and then report nothing that is gated, or part: the strict one reports an
error and the lenient one a gated finding. This relation passes from one entry to lists
of entries and satellites. Where the bases of two group runs part, the strict run ends,
while the lenient one goes on to the satellites, but its gated finding remains.
-/

namespace ResourceAudit.Check

/-- No diagnostic has a code whose severity is left to the policy. -/
def Ungated (ds : List Diagnostic) : Prop :=
  ∀ d ∈ ds, d.code ≠ .parametersDeclarationMissing ∧ d.code ≠ .satellitePlaceholderMismatch

/-- A strict and a lenient attempt at the same check. -/
inductive UpToPolicy {α : Type} (diagnostics : α → List Diagnostic)
    (strict lenient : Except Failure α) : Prop
  | same (heq : strict = lenient) (hungated : ∀ a, lenient = .ok a → Ungated (diagnostics a))
  | parted (a b : α) (hstrict : strict = .ok a) (herror : isClean (diagnostics a) = false)
      (hlenient : lenient = .ok b) (hgated : ¬ Ungated (diagnostics b))

/-! ## Gated codes -/

theorem ungated_nil : Ungated [] := by
  intro d hd
  exact absurd hd List.not_mem_nil

theorem ungated_append {ds es : List Diagnostic} :
    Ungated (ds ++ es) ↔ Ungated ds ∧ Ungated es :=
  List.forall_mem_append

theorem ungated_singleton {d : Diagnostic} :
    Ungated [d] ↔
      d.code ≠ .parametersDeclarationMissing ∧ d.code ≠ .satellitePlaceholderMismatch :=
  List.forall_mem_singleton

theorem ungated_reportAll {name value : String} {parameters : List Parameter}
    {uses : List (Int × String)} {found : List Finding} (file : Option String)
    (h : specifiers name value parameters uses = .ok found) :
    Ungated (reportAll file found) := by
  intro d hd
  obtain ⟨f, hf, rfl⟩ := List.mem_map.mp hd
  show f.code ≠ _ ∧ f.code ≠ _
  rcases code_of_mem_specifiers h hf with hcode | hcode
  · rw [hcode]
    decide
  · rw [hcode]
    decide

namespace UpToPolicy

variable {α β : Type} {diagnostics : α → List Diagnostic}

/-! ## Composed attempts -/

theorem ok {a : α} (hungated : Ungated (diagnostics a)) :
    UpToPolicy diagnostics (.ok a) (.ok a) := by
  refine .same rfl ?_
  rintro _ ⟨⟩
  exact hungated

theorem error (failure : Failure) : UpToPolicy diagnostics (.error failure) (.error failure) := by
  refine .same rfl ?_
  rintro _ ⟨⟩

/-- A step that keeps the diagnostics keeps the relation. -/
theorem map {strict lenient : Except Failure α} {diagnostics' : β → List Diagnostic} (f : α → β)
    (hf : ∀ a, diagnostics' (f a) = diagnostics a) (h : UpToPolicy diagnostics strict lenient) :
    UpToPolicy diagnostics' (strict.map f) (lenient.map f) := by
  cases h with
  | same heq hungated =>
      refine .same (congrArg _ heq) ?_
      intro b hb
      obtain ⟨a, ha, rfl⟩ := Attempt.map_eq_ok.mp hb
      rw [hf]
      exact hungated a ha
  | parted a b hstrict herror hlenient hgated =>
      subst hstrict hlenient
      exact .parted (f a) (f b) rfl ((hf a).symm ▸ herror) rfl ((hf b).symm ▸ hgated)

/-- What parts at the head parts as a whole. -/
theorem parted_head {a b : α} (herror : isClean (diagnostics a) = false)
    (hgated : ¬ Ungated (diagnostics b)) (as bs : List α) :
    UpToPolicy (fun as => (as.map diagnostics).flatten) (.ok (a :: as)) (.ok (b :: bs)) := by
  refine .parted (a :: as) (b :: bs) rfl ?_ rfl ?_
  · show isClean (diagnostics a ++ (as.map diagnostics).flatten) = false
    rw [isClean_append, herror, Bool.false_and]
  · intro hall
    exact hgated (ungated_append.mp hall).1

/-- What parts after the head parts as a whole. -/
theorem parted_tail (a : α) {as bs : List α}
    (herror : isClean (as.map diagnostics).flatten = false)
    (hgated : ¬ Ungated (bs.map diagnostics).flatten) :
    UpToPolicy (fun as => (as.map diagnostics).flatten) (.ok (a :: as)) (.ok (a :: bs)) := by
  refine .parted (a :: as) (a :: bs) rfl ?_ rfl ?_
  · show isClean (diagnostics a ++ (as.map diagnostics).flatten) = false
    rw [isClean_append, herror, Bool.and_false]
  · intro hall
    exact hgated (ungated_append.mp hall).2

/-- One attempt and then a list of attempts. If the head parts, the tail may still fail,
but then it fails on both sides. -/
theorem cons {strict lenient : Except Failure α} {stricts lenients : Except Failure (List α)}
    (h : UpToPolicy diagnostics strict lenient)
    (ht : UpToPolicy (fun as => (as.map diagnostics).flatten) stricts lenients) :
    UpToPolicy (fun as => (as.map diagnostics).flatten)
      (strict >>= fun a => stricts >>= fun as => pure (a :: as))
      (lenient >>= fun a => lenients >>= fun as => pure (a :: as)) := by
  cases h with
  | same heq hungated =>
      subst heq
      cases strict with
      | error failure => exact error failure
      | ok a =>
          cases ht with
          | same heqs hungateds =>
              subst heqs
              cases stricts with
              | error failure => exact error failure
              | ok as =>
                  refine ok ?_
                  exact ungated_append.mpr ⟨hungated a rfl, hungateds as rfl⟩
          | parted as bs hstricts herror hlenients hgated =>
              subst hstricts hlenients
              exact parted_tail a herror hgated
  | parted a b hstrict herror hlenient hgated =>
      subst hstrict hlenient
      cases ht with
      | same heqs _ =>
          subst heqs
          cases stricts with
          | error failure => exact error failure
          | ok as => exact parted_head herror hgated as as
      | parted as bs hstricts _ hlenients _ =>
          subst hstricts hlenients
          exact parted_head herror hgated as bs

theorem mapM {f g : β → Except Failure α} (h : ∀ x, UpToPolicy diagnostics (f x) (g x))
    (xs : List β) :
    UpToPolicy (fun as => (as.map diagnostics).flatten) (xs.mapM f) (xs.mapM g) := by
  induction xs with
  | nil => exact ok ungated_nil
  | cons x xs ih =>
      rw [List.mapM_cons, List.mapM_cons]
      exact cons (h x) ih

end UpToPolicy

/-! ## Base entries -/

section Base

variable {file : Option String} {e : Entry}

theorem ungated_declarationFinding (refusal : DeclarationError) :
    Ungated [(declarationFinding e.name refusal).asError file] := by
  rw [ungated_singleton]
  cases refusal with
  | empty comment => exact ⟨nofun, nofun⟩
  | bad piece => exact ⟨nofun, nofun⟩

theorem ungated_of_indexFinding {scan : Format.Scan} {n : Nat} {f : Finding}
    (h : indexFinding? e.name scan n = some f) :
    f.code ≠ .parametersDeclarationMissing ∧ f.code ≠ .satellitePlaceholderMismatch := by
  unfold indexFinding? at h
  split at h
  · cases h
    exact ⟨nofun, nofun⟩
  · split at h
    · obtain ⟨index, -, rfl⟩ := Option.map_eq_some_iff.mp h
      exact ⟨nofun, nofun⟩
    · obtain ⟨index, -, rfl⟩ := Option.map_eq_some_iff.mp h
      exact ⟨nofun, nofun⟩

/-- The first place where the policy is asked. -/
theorem upToPolicy_plainEntry (scan : Format.Scan) :
    UpToPolicy EntryOutcome.diagnostics (.ok (plainEntry .strict file e scan))
      (.ok (plainEntry .lenient file e scan)) := by
  by_cases hunused : scan.indexes = []
  · rw [plainEntry_unused hunused, plainEntry_unused hunused]
    exact .ok ungated_nil
  · rw [plainEntry_used hunused, plainEntry_used hunused]
    refine .parted _ _ rfl rfl rfl ?_
    intro hall
    exact (ungated_singleton.mp hall).1 rfl

theorem ungated_parameterizedEntry {scan : Format.Scan} {parameters : List Parameter}
    {out : EntryOutcome} (h : parameterizedEntry file e scan parameters = .ok out) :
    Ungated out.diagnostics := by
  cases hindex : indexFinding? e.name scan parameters.length with
  | some f =>
      rw [parameterizedEntry_found hindex] at h
      cases h
      rw [EntryOutcome.rejected, ungated_singleton]
      exact ungated_of_indexFinding hindex
  | none =>
      rw [parameterizedEntry_exact hindex] at h
      obtain ⟨found, hfound, rfl⟩ := Attempt.map_eq_ok.mp h
      exact ungated_reportAll file hfound

theorem upToPolicy_formatEntry (declared : Option (List Parameter)) :
    UpToPolicy EntryOutcome.diagnostics (formatEntry .strict file e declared)
      (formatEntry .lenient file e declared) := by
  cases hscan : (Format.scan e.value).error with
  | some error =>
      rw [formatEntry_malformed hscan, formatEntry_malformed hscan]
      exact .ok (ungated_singleton.mpr ⟨nofun, nofun⟩)
  | none =>
      cases declared with
      | none =>
          rw [formatEntry_none hscan, formatEntry_none hscan]
          exact upToPolicy_plainEntry _
      | some parameters =>
          rw [formatEntry_some hscan, formatEntry_some hscan]
          exact .same rfl fun out hout => ungated_parameterizedEntry hout

theorem upToPolicy_stringEntry :
    UpToPolicy EntryOutcome.diagnostics (stringEntry .strict file e)
      (stringEntry .lenient file e) := by
  unfold stringEntry
  cases Mode.ofComment e.comment with
  | error refusal => exact .ok (ungated_declarationFinding refusal)
  | ok mode =>
      cases mode with
      | suppressed => exact .ok ungated_nil
      | enumeration variants =>
          dsimp only
          by_cases hallowed : Mode.allows variants e.value = true
          · rw [if_pos hallowed]
            exact .ok ungated_nil
          · rw [if_neg hallowed]
            exact .ok (ungated_singleton.mpr ⟨nofun, nofun⟩)
      | plain => exact upToPolicy_formatEntry none
      | parameterized parameters => exact upToPolicy_formatEntry (some parameters)

theorem ungated_includeEntry : Ungated (includeEntry file e).diagnostics := by
  unfold includeEntry
  cases Inclusion.parse? e.value with
  | none => exact ungated_singleton.mpr ⟨nofun, nofun⟩
  | some inclusion => exact ungated_nil

theorem upToPolicy_entry :
    UpToPolicy EntryOutcome.diagnostics (entry .strict file e) (entry .lenient file e) := by
  unfold entry
  by_cases hinclude : e.isInclude = true
  · rw [if_pos hinclude, if_pos hinclude]
    exact .ok ungated_includeEntry
  · rw [if_neg hinclude, if_neg hinclude]
    exact upToPolicy_stringEntry

theorem upToPolicy_baseEntry (baseFile : String) (m : Entry × Bool) :
    UpToPolicy (fun c => Event.diagnostics c.events) (baseEntry .strict baseFile m)
      (baseEntry .lenient baseFile m) := by
  obtain ⟨e, repeated⟩ := m
  cases repeated with
  | true => exact .ok (ungated_singleton.mpr ⟨nofun, nofun⟩)
  | false =>
      rw [baseEntry_unmarked, baseEntry_unmarked]
      exact upToPolicy_entry.map _ fun out => diagnostics_contributionOf e out

theorem upToPolicy_baseEntries (baseFile : String) (entries : List Entry) :
    UpToPolicy (fun cs => Event.diagnostics (baseEvents [] cs))
      (baseEntries .strict baseFile entries) (baseEntries .lenient baseFile entries) := by
  simp only [diagnostics_baseEvents]
  exact UpToPolicy.mapM (upToPolicy_baseEntry baseFile) (Entry.markRepeats entries)

end Base

/-! ## Satellites -/

section Satellites

variable {baseFile : String} {items : List Item} {file : String} {e : Entry} {item : Item}

/-- The second place where the policy is asked. -/
theorem upToPolicy_localizedFormat :
    UpToPolicy id (localizedFormat ⟨.strict, baseFile, items⟩ file e item)
      (localizedFormat ⟨.lenient, baseFile, items⟩ file e item) := by
  cases hscan : (Format.scan e.value).error with
  | some error =>
      rw [localizedFormat_malformed hscan, localizedFormat_malformed hscan]
      exact .ok (ungated_singleton.mpr ⟨nofun, nofun⟩)
  | none =>
      rw [localizedFormat_scanned hscan, localizedFormat_scanned hscan]
      cases hfound : specifiers e.name e.value item.parameters
          (signedUses (Format.scan e.value)) with
      | error failure => exact .error failure
      | ok found =>
          by_cases hexact :
              (Format.scan e.value).usesExactly item.expectedPlaceholders = true
          · rw [if_pos hexact, if_pos hexact]
            exact .ok (ungated_reportAll (some file) hfound)
          · rw [if_neg hexact, if_neg hexact]
            refine .parted _ _ rfl ?_ rfl ?_
            · show isClean ([_] ++ reportAll (some file) found) = false
              rw [isClean_append]
              rfl
            · intro hall
              exact (ungated_singleton.mp (ungated_append.mp hall).1).2 rfl

theorem upToPolicy_localizedValue :
    UpToPolicy id (localizedValue ⟨.strict, baseFile, items⟩ file e item)
      (localizedValue ⟨.lenient, baseFile, items⟩ file e item) := by
  unfold localizedValue
  cases item.mode with
  | suppressed => exact .ok ungated_nil
  | enumeration variants =>
      dsimp only
      by_cases hallowed : Mode.allows variants e.value = true
      · rw [if_pos hallowed]
        exact .ok ungated_nil
      · rw [if_neg hallowed]
        exact .ok (ungated_singleton.mpr ⟨nofun, nofun⟩)
  | plain => exact upToPolicy_localizedFormat
  | parameterized parameters => exact upToPolicy_localizedFormat

theorem upToPolicy_localizedItem :
    UpToPolicy id (localizedItem ⟨.strict, baseFile, items⟩ file e item)
      (localizedItem ⟨.lenient, baseFile, items⟩ file e item) := by
  unfold localizedItem
  cases entryType? e with
  | none => exact .ok (ungated_singleton.mpr ⟨nofun, nofun⟩)
  | some type =>
      dsimp only
      by_cases hother : type ≠ item.type
      · rw [if_pos hother, if_pos hother]
        exact .ok (ungated_singleton.mpr ⟨nofun, nofun⟩)
      · rw [if_neg hother, if_neg hother]
        by_cases hinclude : e.isInclude = true
        · rw [if_pos hinclude, if_pos hinclude]
          exact .ok ungated_nil
        · rw [if_neg hinclude, if_neg hinclude]
          exact upToPolicy_localizedValue

theorem upToPolicy_satelliteEntry (m : Entry × Bool) :
    UpToPolicy id (satelliteEntry ⟨.strict, baseFile, items⟩ file m)
      (satelliteEntry ⟨.lenient, baseFile, items⟩ file m) := by
  obtain ⟨e, repeated⟩ := m
  cases repeated with
  | true => exact .ok (ungated_singleton.mpr ⟨nofun, nofun⟩)
  | false =>
      show UpToPolicy id (localizedEntry _ file e) (localizedEntry _ file e)
      unfold localizedEntry
      dsimp only
      cases Item.find? e.name items with
      | none => exact .ok (ungated_singleton.mpr ⟨nofun, nofun⟩)
      | some item => exact upToPolicy_localizedItem

theorem upToPolicy_satelliteEntries (s : Satellite) :
    UpToPolicy id (satelliteEntries ⟨.strict, baseFile, items⟩ s)
      (satelliteEntries ⟨.lenient, baseFile, items⟩ s) := by
  have hentry : ∀ m, UpToPolicy id (satelliteEntry ⟨.strict, baseFile, items⟩ s.file m)
      (satelliteEntry ⟨.lenient, baseFile, items⟩ s.file m) := upToPolicy_satelliteEntry
  refine (UpToPolicy.mapM hentry (Entry.markRepeats s.entries)).map List.flatten ?_
  intro dss
  exact congrArg List.flatten (List.map_id dss).symm

theorem upToPolicy_satellites (satellites : List Satellite) :
    UpToPolicy List.flatten (satellites.mapM (satelliteEntries ⟨.strict, baseFile, items⟩))
      (satellites.mapM (satelliteEntries ⟨.lenient, baseFile, items⟩)) := by
  have hsatellite : ∀ s, UpToPolicy id (satelliteEntries ⟨.strict, baseFile, items⟩ s)
      (satelliteEntries ⟨.lenient, baseFile, items⟩ s) := upToPolicy_satelliteEntries
  simpa only [List.map_id] using UpToPolicy.mapM hsatellite satellites

end Satellites

/-! ## Groups -/

section Group

variable {baseFile : String} {entries : List Entry} {satellites : List Satellite} {run : GroupRun}

/-- What the base reported is part of what the run reported. -/
theorem ungated_base_of_run {policy : Policy} {cs : List Contribution}
    (hbase : baseEntries policy baseFile entries = .ok cs)
    (h : group policy baseFile entries satellites = .ok run)
    (hungated : Ungated (Event.diagnostics run.events)) :
    Ungated (Event.diagnostics (baseEvents [] cs)) := by
  cases hclean : isClean (Event.diagnostics (baseEvents [] cs)) with
  | false =>
      rw [group_skipped hbase hclean] at h
      cases h
      rw [diagnostics_finish, diagnostics_skippedRun] at hungated
      exact hungated
  | true =>
      rw [group_checked hbase hclean] at h
      obtain ⟨dss, -, rfl⟩ := Attempt.map_eq_ok.mp h
      rw [diagnostics_checkedRun] at hungated
      exact (ungated_append.mp hungated).1

/-- The satellites are verified against the same items, and the base has nothing gated. -/
theorem upToPolicy_checkedRun {cs : List Contribution}
    (hbase : Ungated (Event.diagnostics (baseEvents [] cs))) :
    UpToPolicy (fun run => Event.diagnostics run.events)
      ((satellites.mapM (satelliteEntries ⟨.strict, baseFile, itemsOf cs⟩)).map
        (checkedRun baseFile cs))
      ((satellites.mapM (satelliteEntries ⟨.lenient, baseFile, itemsOf cs⟩)).map
        (checkedRun baseFile cs)) := by
  cases upToPolicy_satellites satellites with
  | same heq hungated =>
      refine .same (congrArg _ heq) ?_
      intro run hrun
      obtain ⟨dss, hdss, rfl⟩ := Attempt.map_eq_ok.mp hrun
      rw [diagnostics_checkedRun]
      exact ungated_append.mpr ⟨hbase, hungated dss hdss⟩
  | parted as bs hstrict herror hlenient hgated =>
      rw [hstrict, hlenient]
      refine .parted _ _ rfl ?_ rfl ?_
      · rw [diagnostics_checkedRun, isClean_append, herror, Bool.and_false]
      · rw [diagnostics_checkedRun, ungated_append]
        intro hall
        exact hgated hall.2

/-- A strict and a lenient run of the same group. They end in the same way without a gated
finding, or the strict run is invalid and a lenient run, if it completes, has one. -/
theorem group_up_to_policy (baseFile : String) (entries : List Entry)
    (satellites : List Satellite) :
    (group .strict baseFile entries satellites = group .lenient baseFile entries satellites ∧
      ∀ run, group .lenient baseFile entries satellites = .ok run →
        Ungated (Event.diagnostics run.events)) ∨
    ((∃ run, group .strict baseFile entries satellites = .ok run ∧ run.isValid = false) ∧
      ∀ run, group .lenient baseFile entries satellites = .ok run →
        ¬ Ungated (Event.diagnostics run.events)) := by
  cases upToPolicy_baseEntries baseFile entries with
  | parted as bs hstrict herror hlenient hgated =>
      -- Only the lenient run meets the satellites, but its base has been reported.
      refine Or.inr ⟨⟨_, group_skipped hstrict herror, ?_⟩, ?_⟩
      · rw [GroupRun.isValid_eq_isClean, diagnostics_finish, diagnostics_skippedRun, herror]
      · intro run hrun hungated
        exact hgated (ungated_base_of_run hlenient hrun hungated)
  | same heq hungated =>
      cases hbase : baseEntries .lenient baseFile entries with
      | error failure =>
          rw [group_failed hbase, group_failed (heq.trans hbase)]
          exact Or.inl ⟨rfl, nofun⟩
      | ok cs =>
          cases hclean : isClean (Event.diagnostics (baseEvents [] cs)) with
          | false =>
              rw [group_skipped hbase hclean, group_skipped (heq.trans hbase) hclean]
              refine Or.inl ⟨rfl, ?_⟩
              rintro _ ⟨⟩
              rw [diagnostics_finish, diagnostics_skippedRun]
              exact hungated cs hbase
          | true =>
              -- The items are the same, so the satellites decide.
              rw [group_checked hbase hclean, group_checked (heq.trans hbase) hclean]
              cases upToPolicy_checkedRun (hungated cs hbase) with
              | same heqs hungateds => exact Or.inl ⟨heqs, hungateds⟩
              | parted a b hstrict herror hlenient hgated =>
                  rw [hstrict, hlenient]
                  refine Or.inr ⟨⟨a, rfl, (GroupRun.isValid_eq_isClean a).trans herror⟩, ?_⟩
                  rintro _ ⟨⟩
                  exact hgated

/-- **The policy only moves gated findings.** A run is a valid strict run if and only if
it is a valid lenient run without a gated warning, and what is invalid under the lenient
policy is invalid under the strict one. -/
theorem strict_valid_iff_lenient_ungated (baseFile : String) (entries : List Entry)
    (satellites : List Satellite) :
    (∀ run, (group .strict baseFile entries satellites = .ok run ∧ run.isValid = true) ↔
        group .lenient baseFile entries satellites = .ok run ∧ run.isValid = true ∧
          Ungated run.result.warnings) ∧
      ∀ run, group .lenient baseFile entries satellites = .ok run → run.isValid = false →
        ∃ other, group .strict baseFile entries satellites = .ok other ∧
          other.isValid = false := by
  rcases group_up_to_policy baseFile entries satellites with
    ⟨heq, hungated⟩ | ⟨⟨other, hstrict, hinvalid⟩, hgated⟩
  · rw [heq]
    refine ⟨?_, fun run hrun hinvalid => ⟨run, hrun, hinvalid⟩⟩
    intro run
    constructor
    · rintro ⟨hrun, hvalid⟩
      refine ⟨hrun, hvalid, ?_⟩
      rw [GroupRun.warnings_of_isValid hvalid]
      exact hungated run hrun
    · rintro ⟨hrun, hvalid, -⟩
      exact ⟨hrun, hvalid⟩
  · refine ⟨?_, fun _ _ _ => ⟨other, hstrict, hinvalid⟩⟩
    intro run
    constructor
    · rintro ⟨hrun, hvalid⟩
      cases hstrict.symm.trans hrun
      rw [hinvalid] at hvalid
      exact Bool.noConfusion hvalid
    · rintro ⟨hrun, hvalid, hungated⟩
      rw [GroupRun.warnings_of_isValid hvalid] at hungated
      exact absurd hungated (hgated run hrun)

/-- An entry without a declaration, and one with a stray brace. -/
def countEntries : List Entry :=
  [⟨"count", "{0} files", none, none⟩, ⟨"share", "100\x7d", none, none⟩]

def countRun : GroupRun :=
  finish "Strings.resx" (skippedRun "Strings.resx"
    [.report ((Finding.parametersDeclarationMissing "count").gated .lenient
        (some "Strings.resx")),
      .report ((scanFinding "share" ⟨.strayBrace, 3⟩).asError (some "Strings.resx")),
      progress .debug "Rejected share in Strings.resx"])

theorem strict_valid_iff_lenient_ungated_count :
    group .lenient "Strings.resx" countEntries [] = .ok countRun ∧ countRun.isValid = false ∧
      ∃ other, group .strict "Strings.resx" countEntries [] = .ok other ∧
        other.isValid = false := by
  have hrun : group .lenient "Strings.resx" countEntries [] = .ok countRun := by
    decide +kernel
  have hinvalid : countRun.isValid = false := by decide +kernel
  exact ⟨hrun, hinvalid,
    (strict_valid_iff_lenient_ungated "Strings.resx" countEntries []).2 countRun hrun hinvalid⟩

end Group

end ResourceAudit.Check
