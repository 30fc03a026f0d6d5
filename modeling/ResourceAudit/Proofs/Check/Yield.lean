import ResourceAudit.Proofs.Check.Outlet
import ResourceAudit.Proofs.Check.Decomposition
import ResourceAudit.Proofs.Check.Steps

/-!
# What a check yields

A check of an entry ends in one of a dozen places. In each of them it has reported an error or
returns an item, never both and never neither (`decided_of_entry`), and an item it returns says
what its entry says (`resolves_of_entry`). A group keeps the items of its base entries exactly
if nothing was wrong with any of its files.
-/

namespace ResourceAudit.Check

/-- An outcome has an item exactly if its diagnostics are clean. -/
def EntryOutcome.Decided (out : EntryOutcome) : Prop :=
  out.item.isSome = isClean out.diagnostics

variable {policy : Policy} {file : Option String} {e : Entry} {out : EntryOutcome} {i : Item}

/-! ## The ends of a check -/

theorem decided_accepted (item : Item) : (EntryOutcome.accepted item).Decided := rfl

theorem decided_rejected (file : Option String) (f : Finding) :
    (EntryOutcome.rejected file f).Decided := rfl

/-- The policy that makes the finding an error also withholds the item. -/
theorem decided_plainEntry (policy : Policy) (file : Option String) (e : Entry)
    (scan : Format.Scan) : (plainEntry policy file e scan).Decided := by
  by_cases hunused : scan.indexes = []
  · rw [plainEntry_unused hunused]
    exact decided_accepted _
  · rw [plainEntry_used hunused]
    cases policy <;> rfl

theorem decided_parameterizedEntry {scan : Format.Scan} {parameters : List Parameter}
    (h : parameterizedEntry file e scan parameters = .ok out) : out.Decided := by
  cases hindex : indexFinding? e.name scan parameters.length with
  | some found =>
      rw [parameterizedEntry_found hindex] at h
      cases h
      exact decided_rejected file found
  | none =>
      rw [parameterizedEntry_exact hindex] at h
      obtain ⟨found, -, rfl⟩ := Attempt.map_eq_ok.mp h
      unfold EntryOutcome.Decided
      dsimp only
      cases isClean (reportAll file found) <;> rfl

theorem decided_formatEntry {declared : Option (List Parameter)}
    (h : formatEntry policy file e declared = .ok out) : out.Decided := by
  cases hscan : (Format.scan e.value).error with
  | some error =>
      rw [formatEntry_malformed hscan] at h
      cases h
      exact decided_rejected file _
  | none =>
      cases declared with
      | none =>
          rw [formatEntry_none hscan] at h
          cases h
          exact decided_plainEntry policy file e _
      | some parameters =>
          rw [formatEntry_some hscan] at h
          exact decided_parameterizedEntry h

theorem decided_stringEntry (h : stringEntry policy file e = .ok out) : out.Decided := by
  unfold stringEntry at h
  cases hmode : Mode.ofComment e.comment with
  | error refusal =>
      rw [hmode] at h
      cases h
      exact decided_rejected file _
  | ok mode =>
      rw [hmode] at h
      cases mode with
      | suppressed =>
          cases h
          exact decided_accepted _
      | enumeration variants =>
          dsimp only at h
          by_cases hallowed : Mode.allows variants e.value = true
          · rw [if_pos hallowed] at h
            cases h
            exact decided_accepted _
          · rw [if_neg hallowed] at h
            cases h
            exact decided_rejected file _
      | plain => exact decided_formatEntry h
      | parameterized parameters => exact decided_formatEntry h

theorem decided_includeEntry (file : Option String) (e : Entry) :
    (includeEntry file e).Decided := by
  unfold includeEntry
  cases Inclusion.parse? e.value with
  | none => exact decided_rejected file _
  | some inclusion => exact decided_accepted _

/-- Wherever the check of an entry ends, it has reported an error or yields an item. -/
theorem decided_of_entry (h : entry policy file e = .ok out) : out.Decided := by
  unfold entry at h
  by_cases hinclude : e.isInclude = true
  · rw [if_pos hinclude] at h
    cases h
    exact decided_includeEntry file e
  · rw [if_neg hinclude] at h
    exact decided_stringEntry h

theorem EntryOutcome.Decided.exists_item (h : out.Decided)
    (hclean : isClean out.diagnostics = true) : ∃ i, out.item = some i :=
  Option.isSome_iff_exists.mp (h.trans hclean)

theorem EntryOutcome.Decided.item_eq_none_iff (h : out.Decided) :
    out.item = none ↔ (Result.ofDiagnostics out.diagnostics).errors ≠ [] := by
  have hvalid := Result.isValid_ofDiagnostics out.diagnostics
  rw [← h, Result.isValid] at hvalid
  rw [← Option.isSome_eq_false_iff.trans Option.isNone_iff_eq_none, ← hvalid, ne_eq,
    List.isEmpty_eq_false_iff]

/-! ## Items -/

/-- An item is read off its entry: its indexes are those of a format string in ascending order,
for declared parameters all of theirs, and there are none in a value that is not formatted. -/
structure Resolves (e : Entry) (i : Item) : Prop where
  name : i.name = e.name
  ascending : i.placeholders.Pairwise (· < ·)
  declaration : e.isInclude = false → Mode.ofComment e.comment = .ok i.mode
  plain : e.isInclude = false → i.mode = .plain →
    i.placeholders = (Format.scan e.value).indexes
  parameterized : ∀ parameters, e.isInclude = false → i.mode = .parameterized parameters →
    i.placeholders = (Format.scan e.value).indexes ∧
      i.placeholders = List.range parameters.length
  suppressed : i.mode = .suppressed → i.placeholders = []
  enumeration : ∀ variants, i.mode = .enumeration variants → i.placeholders = []
  inclusion : e.isInclude = true → i.mode = .plain ∧ i.placeholders = []

theorem resolves_of_admitted (hstring : e.isInclude = false) (h : Admitted policy e i) :
    Resolves e i := by
  have hinclusion : e.isInclude = true → i.mode = .plain ∧ i.placeholders = [] := by
    intro hinclude
    exact Bool.noConfusion (hstring.symm.trans hinclude)
  have hascending := (Format.scan e.value).pairwise_indexes
  cases h with
  | suppressed hmode =>
      exact {
        name := rfl
        ascending := .nil
        declaration := fun _ => hmode
        plain := nofun
        parameterized := nofun
        suppressed := fun _ => rfl
        enumeration := nofun
        inclusion := hinclusion }
  | enumeration variants hmode =>
      exact {
        name := rfl
        ascending := .nil
        declaration := fun _ => hmode
        plain := nofun
        parameterized := nofun
        suppressed := nofun
        enumeration := fun _ _ => rfl
        inclusion := hinclusion }
  | plain hmode =>
      exact {
        name := rfl
        ascending := hascending
        declaration := fun _ => hmode
        plain := fun _ _ => rfl
        parameterized := nofun
        suppressed := nofun
        enumeration := nofun
        inclusion := hinclusion }
  | parameterized parameters hmode hfits =>
      have hindexes : (Format.scan e.value).indexes = List.range parameters.length :=
        (indexes_eq_range_iff _ _).mpr hfits.indexes
      exact {
        name := rfl
        ascending := hascending
        declaration := fun _ => hmode
        plain := nofun
        parameterized := by
          intro others _ hothers
          cases hothers
          exact ⟨rfl, hindexes⟩
        suppressed := nofun
        enumeration := nofun
        inclusion := hinclusion }

theorem resolves_of_inclusion (hinclude : e.isInclude = true) (inclusion : Inclusion) :
    Resolves e (inclusionItem e inclusion) := by
  have hstring : e.isInclude ≠ false := by
    rw [hinclude]
    decide
  exact {
    name := rfl
    ascending := .nil
    declaration := fun h => absurd h hstring
    plain := fun h => absurd h hstring
    parameterized := nofun
    suppressed := nofun
    enumeration := nofun
    inclusion := fun _ => ⟨rfl, rfl⟩ }

theorem resolves_of_entry (h : entry policy file e = .ok out) (hitem : out.item = some i) :
    Resolves e i := by
  rcases item_of_entry h hitem with ⟨hinclude, inclusion, -, rfl⟩ | ⟨hstring, hadmitted⟩
  · exact resolves_of_inclusion hinclude inclusion
  · exact resolves_of_admitted hstring hadmitted

/-! ## Groups -/

/-- Checked against a collector, the entry yields the item, and at most warnings are added to
what the collector held. -/
def Yields (policy : Policy) (file : Option String) (e : Entry) (i : Item) : Prop :=
  ∀ held : Result, ∃ warnings,
    (entryInto Sink.receive file policy e).run (.collector held) =
      .ok (some i, .collector ⟨held.errors, held.warnings ++ warnings⟩)

theorem yields_of_isClean (h : entry policy file e = .ok out) (hitem : out.item = some i)
    (hclean : isClean out.diagnostics = true) : Yields policy file e i := by
  intro held
  refine ⟨out.diagnostics, ?_⟩
  rw [run_entryInto_collector, h]
  dsimp only [Except.map]
  rw [hitem, Result.ofDiagnostics_of_isClean hclean, Result.merge, List.append_nil]

variable {baseFile : String} {entries : List Entry} {cs : List Contribution}

/-- In a clean base each entry yields one item. -/
theorem forall₂_itemsOf (h : baseEntries policy baseFile entries = .ok cs)
    (hclean : isClean (Event.diagnostics (baseEvents [] cs)) = true) :
    List.Forall₂ (Yields policy (some baseFile)) entries (itemsOf cs) := by
  rw [baseEntries_of_nodup (nodup_of_isClean h hclean)] at h
  have hall := Attempt.mapM_eq_ok.mp h
  rw [isClean_baseEvents] at hclean
  clear h
  induction hall with
  | nil => exact .nil
  | @cons e c entries cs hentry _ ih =>
      rw [List.forall_mem_cons] at hclean
      obtain ⟨hfirst, hrest⟩ := hclean
      obtain ⟨out, hout, rfl⟩ := Attempt.map_eq_ok.mp hentry
      rw [diagnostics_contributionOf] at hfirst
      obtain ⟨i, hitem⟩ := (decided_of_entry hout).exists_item hfirst
      unfold itemsOf
      rw [List.filterMap_cons, item_contributionOf, hitem]
      exact .cons (yields_of_isClean hout hitem hfirst) (ih hrest)

/-- A group with an error exposes nothing. -/
theorem items_of_error {g : GroupInput} {run : GroupRun} (h : checkAlone g = .ok run)
    (herror : run.isValid = false) : run.items = [] := by
  unfold checkAlone at h
  cases hbase : baseEntries g.policy g.baseFile g.entries with
  | error failure =>
      rw [group_failed hbase] at h
      cases h
  | ok cs =>
      cases hclean : isClean (Event.diagnostics (baseEvents [] cs)) with
      | false =>
          rw [group_skipped hbase hclean] at h
          cases h
          rfl
      | true =>
          rw [group_checked hbase hclean] at h
          obtain ⟨dss, -, rfl⟩ := Attempt.map_eq_ok.mp h
          rw [GroupRun.isValid_eq_isClean, diagnostics_checkedRun] at herror
          rw [items_checkedRun_eq, herror]
          rfl

/-- A group without an error exposes one item for each of its base entries. -/
theorem items_of_isValid {g : GroupInput} {run : GroupRun} (h : checkAlone g = .ok run)
    (hvalid : run.isValid = true) :
    List.Forall₂ (Yields g.policy (some g.baseFile)) g.entries run.items ∧
      (run.items.map Item.name).Nodup := by
  obtain ⟨cs, dss, hbase, hclean, -, -, hitems, -⟩ := group_valid h hvalid
  rw [hitems]
  exact ⟨forall₂_itemsOf hbase hclean, (sublist_names hbase).nodup (nodup_of_isClean hbase hclean)⟩

/-! ## Entries and groups -/

/-- **Items and errors.** The check of an entry only adds to what a collector held, and it
yields an item exactly if it adds no error. The item is read off the entry. A group with an error
has no items; a group without has those of its base entries, one for each and in their order. -/
theorem item_iff_clean :
    (∀ (policy : Policy) (file : Option String) (e : Entry) (held : Result) (item : Option Item)
        (after : Sink),
      (entryInto Sink.receive file policy e).run (.collector held) = .ok (item, after) →
        ∃ added : Result, added.Sorted ∧
          after = .collector ⟨held.errors ++ added.errors, held.warnings ++ added.warnings⟩ ∧
          (item = none ↔ added.errors ≠ []) ∧ ∀ i, item = some i → Resolves e i) ∧
      ∀ (sink : Option Sink) (g : GroupInput) (r : GroupResult) (after : Option Sink),
        groupInto sink g = .ok (r, after) →
          (r.result.errors ≠ [] → r.items = []) ∧
          (r.result.errors = [] →
            List.Forall₂ (Yields g.policy (some g.baseFile)) g.entries r.items ∧
              (r.items.map Item.name).Nodup) := by
  constructor
  · intro policy file e held item after h
    rw [run_entryInto_collector] at h
    obtain ⟨out, hout, hend⟩ := Attempt.map_eq_ok.mp h
    obtain ⟨rfl, rfl⟩ := Prod.mk.inj hend
    refine ⟨.ofDiagnostics out.diagnostics, Result.sorted_ofDiagnostics _, rfl, ?_, ?_⟩
    · exact (decided_of_entry hout).item_eq_none_iff
    · exact fun i hitem => resolves_of_entry hout hitem
  · intro sink g r after h
    rw [groupInto_eq] at h
    obtain ⟨run, hrun, hend⟩ := Attempt.map_eq_ok.mp h
    obtain ⟨rfl, -⟩ := Prod.mk.inj hend
    constructor
    · intro herrors
      exact items_of_error hrun (List.isEmpty_eq_false_iff.mpr herrors)
    · intro hnone
      exact items_of_isValid hrun (List.isEmpty_iff.mpr hnone)

/-- A value with a specifier that has no effect on its text. -/
def progressEntry : Entry :=
  ⟨"progress", "\x7b0\x7d of \x7b1:N\x7d", some "\x7bint done, string total\x7d", none⟩

def progressItem : Item :=
  ⟨"progress", progressEntry.value, stringType,
    .parameterized [⟨"int", "done"⟩, ⟨"string", "total"⟩], [0, 1]⟩

def progressWarning : Diagnostic :=
  (Finding.specifierOnText "progress" "N" "total" progressEntry.value).asWarning
    (some "Strings.resx")

def titleError : Diagnostic :=
  (Finding.resourceNameDuplicated "title").asError (some "Strings.resx")

theorem item_iff_clean_progress :
    (entryInto Sink.receive (some "Strings.resx") .strict progressEntry).run
        (.collector ⟨[titleError], []⟩) =
      .ok (some progressItem, .collector ⟨[titleError], [progressWarning]⟩) ∧
      Resolves progressEntry progressItem ∧
      ∃ r, groupInto none ⟨.strict, "Strings.resx", [progressEntry], []⟩ = .ok (r, none) ∧
        List.Forall₂ (Yields .strict (some "Strings.resx")) [progressEntry] r.items := by
  have hentry : (entryInto Sink.receive (some "Strings.resx") .strict progressEntry).run
      (.collector ⟨[titleError], []⟩) =
        .ok (some progressItem, .collector ⟨[titleError], [progressWarning]⟩) := by
    decide +kernel
  have hgroup : groupInto none ⟨.strict, "Strings.resx", [progressEntry], []⟩ =
      .ok (⟨[progressItem], ⟨[], [progressWarning]⟩⟩, none) := by
    decide +kernel
  obtain ⟨added, -, -, -, hresolves⟩ := item_iff_clean.1 _ _ _ _ _ _ hentry
  exact ⟨hentry, hresolves progressItem rfl, _, hgroup,
    ((item_iff_clean.2 _ _ _ _ hgroup).2 rfl).1⟩

end ResourceAudit.Check
