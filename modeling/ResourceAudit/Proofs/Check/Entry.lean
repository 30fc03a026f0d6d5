import ResourceAudit.Proofs.Check.Fit

/-!
# Base entries that yield an item

`Admitted` says for each mode what a string entry must satisfy to yield an item, and
which item that is. The checks admit nothing else (`admitted_of_stringEntry`), and an
include entry yields an item of its own kind (`item_of_entry`).
-/

namespace ResourceAudit.Check

/-- A string entry and the item it may yield. -/
inductive Admitted (policy : Policy) (e : Entry) : Item → Prop
  | suppressed (hmode : Mode.ofComment e.comment = .ok .suppressed) :
      Admitted policy e ⟨e.name, e.value, stringType, .suppressed, []⟩
  | enumeration (variants : List String)
      (hmode : Mode.ofComment e.comment = .ok (.enumeration variants))
      (hallowed : Mode.allows variants e.value = true) :
      Admitted policy e ⟨e.name, e.value, stringType, .enumeration variants, []⟩
  | plain (hmode : Mode.ofComment e.comment = .ok .plain)
      (hscan : (Format.scan e.value).error = none)
      (hunused : policy = .strict → (Format.scan e.value).indexes = []) :
      Admitted policy e
        ⟨e.name, e.value, stringType, .plain, (Format.scan e.value).indexes⟩
  | parameterized (parameters : List Parameter)
      (hmode : Mode.ofComment e.comment = .ok (.parameterized parameters))
      (hfits : Fits parameters e.value) :
      Admitted policy e
        ⟨e.name, e.value, stringType, .parameterized parameters,
          (Format.scan e.value).indexes⟩

variable {policy : Policy} {file : Option String} {e : Entry} {out : EntryOutcome} {i : Item}

namespace Admitted

theorem name_eq (h : Admitted policy e i) : i.name = e.name := by
  cases h <;> rfl

theorem type_eq (h : Admitted policy e i) : i.type = stringType := by
  cases h <;> rfl

end Admitted

/-! ## Values without declared parameters -/

/-- The item of a value without declared parameters. -/
def plainItem (e : Entry) (scan : Format.Scan) : Item :=
  ⟨e.name, e.value, stringType, .plain, scan.indexes⟩

theorem plainEntry_unused {scan : Format.Scan} (hunused : scan.indexes = []) :
    plainEntry policy file e scan = .accepted (plainItem e scan) := by
  unfold plainEntry
  exact if_pos (List.length_eq_zero_iff.mpr hunused)

/-- Only here does the policy decide whether there is an item. -/
theorem plainEntry_used {scan : Format.Scan} (hused : scan.indexes ≠ []) :
    plainEntry policy file e scan =
      ⟨match policy with
        | .strict => none
        | .lenient => some (plainItem e scan),
        [(Finding.parametersDeclarationMissing e.name).gated policy file]⟩ := by
  have hcount : ¬ scan.count = 0 := by
    intro h
    exact hused (List.length_eq_zero_iff.mp h)
  unfold plainEntry
  dsimp only
  rw [if_neg hcount]
  cases policy <;> rfl

theorem item_of_plainEntry {scan : Format.Scan}
    (h : (plainEntry policy file e scan).item = some i) :
    i = plainItem e scan ∧ (policy = .strict → scan.indexes = []) := by
  by_cases hunused : scan.indexes = []
  · rw [plainEntry_unused hunused] at h
    cases h
    exact ⟨rfl, fun _ => hunused⟩
  · rw [plainEntry_used hunused] at h
    cases policy with
    | strict => cases h
    | lenient =>
        cases h
        exact ⟨rfl, nofun⟩

/-! ## Values with declared parameters -/

theorem parameterizedEntry_found {parameters : List Parameter} {scan : Format.Scan} {f : Finding}
    (hindex : indexFinding? e.name scan parameters.length = some f) :
    parameterizedEntry file e scan parameters = .ok (.rejected file f) := by
  unfold parameterizedEntry
  rw [hindex]

/-- Once the indexes are those of the declaration, the specifiers decide. -/
theorem parameterizedEntry_exact {parameters : List Parameter} {scan : Format.Scan}
    (hindex : indexFinding? e.name scan parameters.length = none) :
    parameterizedEntry file e scan parameters =
      (specifiers e.name e.value parameters (signedUses scan)).map fun found =>
        ⟨if isClean (reportAll file found) then
            some ⟨e.name, e.value, stringType, .parameterized parameters, scan.indexes⟩
          else none,
          reportAll file found⟩ := by
  unfold parameterizedEntry
  rw [hindex]
  show (specifiers e.name e.value parameters _ >>= _) = _
  cases specifiers e.name e.value parameters (signedUses scan) <;> rfl

theorem item_of_parameterizedEntry {parameters : List Parameter}
    (hscan : (Format.scan e.value).error = none)
    (h : parameterizedEntry file e (Format.scan e.value) parameters = .ok out)
    (hitem : out.item = some i) :
    i = ⟨e.name, e.value, stringType, .parameterized parameters,
        (Format.scan e.value).indexes⟩ ∧ Fits parameters e.value := by
  cases hindex : indexFinding? e.name (Format.scan e.value) parameters.length with
  | some f =>
      rw [parameterizedEntry_found hindex] at h
      cases h
      cases hitem
  | none =>
      rw [parameterizedEntry_exact hindex] at h
      obtain ⟨found, hfound, rfl⟩ := Attempt.map_eq_ok.mp h
      obtain ⟨hdeclared, hindexes⟩ := indexFinding?_eq_none_iff.mp hindex
      by_cases hclean : isClean (reportAll file found) = true
      · rw [if_pos hclean] at hitem
        cases hitem
        refine ⟨rfl, hdeclared, hscan, ?_, specifiersFit_of_isClean hfound hclean⟩
        exact (indexes_eq_range_iff _ _).mp hindexes
      · rw [if_neg hclean] at hitem
        cases hitem

/-! ## Format strings -/

theorem formatEntry_malformed {declared : Option (List Parameter)} {error : Format.ScanError}
    (hscan : (Format.scan e.value).error = some error) :
    formatEntry policy file e declared = .ok (.rejected file (scanFinding e.name error)) := by
  unfold formatEntry
  dsimp only
  rw [hscan]

/-- Only a well-formed value yields an item. -/
theorem scan_of_formatEntry {declared : Option (List Parameter)}
    (h : formatEntry policy file e declared = .ok out) (hitem : out.item = some i) :
    (Format.scan e.value).error = none := by
  by_contra hscan
  obtain ⟨error, hscan⟩ := Option.ne_none_iff_exists'.mp hscan
  rw [formatEntry_malformed hscan] at h
  cases h
  cases hitem

theorem formatEntry_none (hscan : (Format.scan e.value).error = none) :
    formatEntry policy file e none = .ok (plainEntry policy file e (Format.scan e.value)) := by
  unfold formatEntry
  dsimp only
  rw [hscan]

theorem formatEntry_some (hscan : (Format.scan e.value).error = none)
    (parameters : List Parameter) :
    formatEntry policy file e (some parameters) =
      parameterizedEntry file e (Format.scan e.value) parameters := by
  unfold formatEntry
  dsimp only
  rw [hscan]

/-! ## Items -/

theorem admitted_of_stringEntry (h : stringEntry policy file e = .ok out)
    (hitem : out.item = some i) : Admitted policy e i := by
  unfold stringEntry at h
  cases hmode : Mode.ofComment e.comment with
  | error refusal =>
      rw [hmode] at h
      cases h
      cases hitem
  | ok mode =>
      rw [hmode] at h
      cases mode with
      | suppressed =>
          cases h
          cases hitem
          exact .suppressed hmode
      | enumeration variants =>
          dsimp only at h
          by_cases hallowed : Mode.allows variants e.value = true
          · rw [if_pos hallowed] at h
            cases h
            cases hitem
            exact .enumeration variants hmode hallowed
          · rw [if_neg hallowed] at h
            cases h
            cases hitem
      | plain =>
          dsimp only at h
          have hscan := scan_of_formatEntry h hitem
          rw [formatEntry_none hscan] at h
          cases h
          obtain ⟨rfl, hunused⟩ := item_of_plainEntry hitem
          exact .plain hmode hscan hunused
      | parameterized parameters =>
          dsimp only at h
          have hscan := scan_of_formatEntry h hitem
          rw [formatEntry_some hscan] at h
          obtain ⟨rfl, hfits⟩ := item_of_parameterizedEntry hscan h hitem
          exact .parameterized parameters hmode hfits

/-- The item of an include entry. -/
def inclusionItem (e : Entry) (inclusion : Inclusion) : Item :=
  ⟨e.name, includeDescription inclusion.file, inclusion.type, .plain, []⟩

/-- **Where items come from.** An item stems from an include entry with a proper
value, or from a string entry that was admitted. -/
theorem item_of_entry (h : entry policy file e = .ok out) (hitem : out.item = some i) :
    (e.isInclude = true ∧
      ∃ inclusion, Inclusion.parse? e.value = some inclusion ∧ i = inclusionItem e inclusion) ∨
    (e.isInclude = false ∧ Admitted policy e i) := by
  unfold entry at h
  by_cases hinclude : e.isInclude = true
  · rw [if_pos hinclude] at h
    cases h
    unfold includeEntry at hitem
    cases hparse : Inclusion.parse? e.value with
    | none =>
        rw [hparse] at hitem
        cases hitem
    | some inclusion =>
        rw [hparse] at hitem
        cases hitem
        exact Or.inl ⟨hinclude, inclusion, rfl, rfl⟩
  · rw [if_neg hinclude] at h
    exact Or.inr ⟨Bool.eq_false_iff.mpr hinclude, admitted_of_stringEntry h hitem⟩

theorem name_of_entry (h : entry policy file e = .ok out) (hitem : out.item = some i) :
    i.name = e.name := by
  rcases item_of_entry h hitem with ⟨-, inclusion, -, rfl⟩ | ⟨-, hadmitted⟩
  · rfl
  · exact hadmitted.name_eq

end ResourceAudit.Check
