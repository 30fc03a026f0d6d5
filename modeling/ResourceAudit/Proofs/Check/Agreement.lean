import ResourceAudit.Proofs.Check.Address
import ResourceAudit.Proofs.Resource.Repeats

/-!
# Base and satellites agree

Under the strict policy a localized value is accepted for an item exactly if the base
entry of that item would be accepted with this value in its place, and the same warnings
are reported. The two checks are written separately. The base counts the indexes before
it compares them and looks at specifiers last; a satellite compares lists of indexes and
looks at specifiers in any case.
-/

namespace ResourceAudit.Check

variable {verified : Except Failure (List Diagnostic)} {checked : Except Failure EntryOutcome}
  {ds es : List Diagnostic} {out : EntryOutcome}

/-- A verification that completes without an error. -/
def VerifiesCleanly (verified : Except Failure (List Diagnostic)) : Prop :=
  ∃ ds, verified = .ok ds ∧ isClean ds = true

/-- A check that completes with an item. -/
def YieldsItem (checked : Except Failure EntryOutcome) : Prop :=
  ∃ out, checked = .ok out ∧ out.item.isSome = true

/-- The warnings among diagnostics, without the file each is addressed to. -/
def unaddressedWarnings (ds : List Diagnostic) : List Diagnostic :=
  (Result.ofDiagnostics ds).warnings.map fun d => { d with file := none }

/-- A verification and a check that accept alike and then warn alike. -/
structure Agree (verified : Except Failure (List Diagnostic))
    (checked : Except Failure EntryOutcome) : Prop where
  accept : VerifiesCleanly verified ↔ YieldsItem checked
  warn : ∀ ds out, verified = .ok ds → isClean ds = true → checked = .ok out →
    out.item.isSome = true → unaddressedWarnings ds = unaddressedWarnings out.diagnostics

namespace Agree

theorem accepted (hverified : verified = .ok ds) (hclean : isClean ds = true)
    (hchecked : checked = .ok out) (hitem : out.item.isSome = true)
    (hwarnings : unaddressedWarnings ds = unaddressedWarnings out.diagnostics) :
    Agree verified checked := by
  subst hverified hchecked
  refine ⟨⟨fun _ => ⟨out, rfl, hitem⟩, fun _ => ⟨ds, rfl, hclean⟩⟩, ?_⟩
  rintro _ _ ⟨⟩ - ⟨⟩ -
  exact hwarnings

theorem refused (hverified : ¬ VerifiesCleanly verified) (hchecked : ¬ YieldsItem checked) :
    Agree verified checked := by
  refine ⟨iff_of_false hverified hchecked, ?_⟩
  intro ds out hds hclean
  exact absurd ⟨ds, hds, hclean⟩ hverified

end Agree

/-! ## Refusals -/

theorem not_verifiesCleanly_of_error (hclean : isClean ds ≠ true) :
    ¬ VerifiesCleanly (.ok ds) := by
  rintro ⟨_, ⟨⟩, h⟩
  exact hclean h

theorem not_yieldsItem_rejected (file : Option String) (f : Finding) :
    ¬ YieldsItem (.ok (.rejected file f)) := by
  rintro ⟨_, ⟨⟩, h⟩
  exact Bool.noConfusion h

theorem not_yieldsItem_none (ds : List Diagnostic) : ¬ YieldsItem (.ok ⟨none, ds⟩) := by
  rintro ⟨_, ⟨⟩, h⟩
  exact Bool.noConfusion h

/-! ## Findings with a severity of their own -/

theorem unaddressedWarnings_reportAll (file other : Option String) (found : List Finding) :
    unaddressedWarnings (reportAll file found) = unaddressedWarnings (reportAll other found) := by
  unfold unaddressedWarnings Result.ofDiagnostics reportAll
  dsimp only
  rw [List.filter_map, List.map_map, List.filter_map, List.map_map]
  rfl

/-- One and the same judgement of the specifiers, reported for two files. -/
theorem agree_judged (judged : Except Failure (List Finding)) (file other : Option String)
    (item : Item) :
    Agree (judged.map fun found => [] ++ reportAll file found)
      (judged.map fun found =>
        ⟨if isClean (reportAll other found) then some item else none,
          reportAll other found⟩) := by
  cases judged with
  | error failure =>
      refine .refused ?_ ?_
      · rintro ⟨_, ⟨⟩, -⟩
      · rintro ⟨_, ⟨⟩, -⟩
  | ok found =>
      have hsame : isClean (reportAll file found) = isClean (reportAll other found) :=
        isClean_reportAll file other found
      by_cases hclean : isClean (reportAll other found) = true
      · refine .accepted rfl (hsame.trans hclean) rfl ?_ ?_
        · dsimp only
          rw [if_pos hclean]
          rfl
        · exact unaddressedWarnings_reportAll file other found
      · refine .refused (not_verifiesCleanly_of_error ?_) ?_
        · intro h
          exact hclean (hsame.symm.trans h)
        · rintro ⟨_, ⟨⟩, h⟩
          dsimp only at h
          rw [if_neg hclean] at h
          exact Bool.noConfusion h

/-! ## Format strings -/

variable {ref : Reference} {file : String} {addressee : Option String} {l b : Entry} {item : Item}

theorem agree_malformed {declared : Option (List Parameter)} {error : Format.ScanError}
    (hvalue : l.value = b.value) (hscan : (Format.scan b.value).error = some error) :
    Agree (localizedFormat ref file l item) (formatEntry .strict addressee b declared) := by
  refine .refused ?_ ?_
  · rw [localizedFormat_malformed (hvalue ▸ hscan)]
    exact not_verifiesCleanly_of_error (by simp)
  · rw [formatEntry_malformed hscan]
    exact not_yieldsItem_rejected _ _

/-- Under the strict policy a mismatch rules out a clean verification. -/
theorem not_verifiesCleanly_of_mismatch (hpolicy : ref.policy = .strict)
    (hscan : (Format.scan l.value).error = none)
    (hother : (Format.scan l.value).indexes ≠ item.expectedPlaceholders) :
    ¬ VerifiesCleanly (localizedFormat ref file l item) := by
  rintro ⟨ds, hds, hclean⟩
  rw [localizedFormat_scanned hscan] at hds
  obtain ⟨found, -, rfl⟩ := Attempt.map_eq_ok.mp hds
  have hexact : ¬ (Format.scan l.value).usesExactly item.expectedPlaceholders = true := by
    intro heq
    exact hother (beq_iff_eq.mp heq)
  rw [if_neg hexact] at hclean
  exact mismatch_not_mem hpolicy hclean (List.mem_append_left _ List.mem_cons_self)

/-- Nothing is declared: both sides ask for a value without placeholders. -/
theorem agree_plain (hpolicy : ref.policy = .strict) (hvalue : l.value = b.value)
    (hmode : item.mode = .plain) (hitem : item.expectedPlaceholders = []) :
    Agree (localizedFormat ref file l item) (formatEntry .strict addressee b none) := by
  cases hscan : (Format.scan b.value).error with
  | some error => exact agree_malformed hvalue hscan
  | none =>
      have hlocal : (Format.scan l.value).error = none := by rw [hvalue, hscan]
      rw [formatEntry_none hscan]
      by_cases hunused : (Format.scan b.value).indexes = []
      · have hexact : (Format.scan l.value).usesExactly item.expectedPlaceholders = true := by
          rw [Format.Scan.usesExactly, hvalue, hunused, hitem]
          rfl
        rw [localizedFormat_scanned hlocal, Item.parameters_of_plain hmode, specifiers_nil,
          if_pos hexact, plainEntry_unused hunused]
        exact .accepted rfl rfl rfl rfl rfl
      · rw [plainEntry_used hunused]
        refine .refused (not_verifiesCleanly_of_mismatch hpolicy hlocal ?_) (not_yieldsItem_none _)
        rw [hvalue, hitem]
        exact hunused

/-- Parameters are declared: equal lists of indexes are what the index check of the base
accepts, and the specifiers are judged alike. -/
theorem agree_parameterized {parameters : List Parameter} (hpolicy : ref.policy = .strict)
    (hname : l.name = b.name) (hvalue : l.value = b.value)
    (hmode : item.mode = .parameterized parameters) (hdeclared : 0 < parameters.length) :
    Agree (localizedFormat ref file l item)
      (formatEntry .strict addressee b (some parameters)) := by
  cases hscan : (Format.scan b.value).error with
  | some error => exact agree_malformed hvalue hscan
  | none =>
      have hlocal : (Format.scan l.value).error = none := by rw [hvalue, hscan]
      have hitem : item.expectedPlaceholders = List.range parameters.length :=
        Item.expectedPlaceholders_of_parameterized hmode
      rw [formatEntry_some hscan]
      by_cases hindexes : (Format.scan b.value).indexes = List.range parameters.length
      · have hexact : (Format.scan l.value).usesExactly item.expectedPlaceholders = true := by
          rw [Format.Scan.usesExactly, hvalue, hindexes, hitem]
          exact beq_self_eq_true _
        rw [localizedFormat_scanned hlocal, Item.parameters_of_parameterized hmode,
          if_pos hexact, hname, hvalue,
          parameterizedEntry_exact (indexFinding?_eq_none_iff.mpr ⟨hdeclared, hindexes⟩)]
        exact agree_judged _ (some file) addressee _
      · cases hfinding : indexFinding? b.name (Format.scan b.value) parameters.length with
        | none => exact absurd (indexFinding?_eq_none_iff.mp hfinding).2 hindexes
        | some f =>
            rw [parameterizedEntry_found hfinding]
            refine .refused (not_verifiesCleanly_of_mismatch hpolicy hlocal ?_)
              (not_yieldsItem_rejected _ _)
            rw [hvalue, hitem]
            exact hindexes

/-! ## All modes -/

/-- The modes one by one: `item` is what the base entry yields with its own value. -/
theorem agree_of_admitted {e : Entry} (h : Admitted .strict e item)
    (hpolicy : ref.policy = .strict) (hname : l.name = e.name) :
    Agree (localizedValue ref file l item)
      (stringEntry .strict addressee { e with value := l.value }) := by
  unfold stringEntry
  dsimp only
  cases h with
  | suppressed hmode =>
      rw [hmode]
      exact .accepted rfl rfl rfl rfl rfl
  | enumeration variants hmode =>
      rw [hmode]
      unfold localizedValue
      dsimp only
      by_cases hallowed : Mode.allows variants l.value = true
      · rw [if_pos hallowed, if_pos hallowed]
        exact .accepted rfl rfl rfl rfl rfl
      · rw [if_neg hallowed, if_neg hallowed]
        exact .refused (not_verifiesCleanly_of_error (by simp)) (not_yieldsItem_rejected _ _)
  | plain hmode _ hunused =>
      rw [hmode]
      exact agree_plain hpolicy rfl rfl (hunused rfl)
  | parameterized parameters hmode hfits =>
      rw [hmode]
      exact agree_parameterized hpolicy hname rfl rfl hfits.declared

/-- A satellite of one entry of the name of the only item. -/
theorem satellite_singleton (policy : Policy) (baseFile file : String) {item : Item} (l : Entry)
    (hname : l.name = item.name) (htype : l.type = none) (hitem : item.type = stringType) :
    satellite ⟨policy, baseFile, [item]⟩ ⟨file, [l]⟩ =
      localizedValue ⟨policy, baseFile, [item]⟩ file l item := by
  have hfind : Item.find? l.name [item] = some item := by
    rw [hname]
    have hnodup : ([item].map Item.name).Nodup := List.nodup_singleton item.name
    exact Item.find?_of_nodup hnodup (List.mem_singleton_self item)
  rw [satellite_single]
  unfold localizedEntry
  rw [hfind]
  exact localizedItem_string htype hitem

/-- **Base and satellites agree.** Let a string entry yield an item under the strict
policy. A satellite that localizes only this entry is then verified without an error if
and only if the entry with the localized value still yields an item, and both report the
same warnings up to the file they are addressed to. -/
theorem verification_agrees {e : Entry} (h : stringEntry .strict addressee e = .ok out)
    (hitem : out.item = some item) (baseFile file : String) (other : Option String)
    (value : String) (comment : Option String) :
    Agree (satellite ⟨.strict, baseFile, [item]⟩ ⟨file, [⟨e.name, value, comment, none⟩]⟩)
      (stringEntry .strict other { e with value := value }) := by
  have hadmitted : Admitted .strict e item := admitted_of_stringEntry h hitem
  rw [satellite_singleton .strict baseFile file ⟨e.name, value, comment, none⟩
    hadmitted.name_eq.symm rfl hadmitted.type_eq]
  exact agree_of_admitted hadmitted rfl rfl

def pagesEntry : Entry := ⟨"pages", "{0} of {1}", some "{int i, int n}", none⟩

def pagesItem : Item :=
  ⟨"pages", "{0} of {1}", stringType, .parameterized [⟨"int", "i"⟩, ⟨"int", "n"⟩], [0, 1]⟩

theorem verification_agrees_pages :
    stringEntry .strict (some "Strings.resx") pagesEntry = .ok (.accepted pagesItem) ∧
      Agree
        (satellite ⟨.strict, "Strings.resx", [pagesItem]⟩
          ⟨"Strings.de.resx", [⟨"pages", "Seite {0:D} von {1:N0}", none, none⟩]⟩)
        (stringEntry .strict none { pagesEntry with value := "Seite {0:D} von {1:N0}" }) := by
  have hchecked : stringEntry .strict (some "Strings.resx") pagesEntry =
      .ok (.accepted pagesItem) := by decide +kernel
  exact ⟨hchecked, verification_agrees hchecked rfl "Strings.resx" "Strings.de.resx" none
    "Seite {0:D} von {1:N0}" none⟩

end ResourceAudit.Check
