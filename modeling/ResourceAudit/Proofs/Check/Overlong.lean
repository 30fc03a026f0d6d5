import ResourceAudit.Proofs.Check.Group
import ResourceAudit.Proofs.Specifier.Overlong

/-!
# Entries with an overlong precision

The check of an entry fails exactly if it comes to a numeric specifier whose precision is too
long. It comes to the specifiers of a value once the value scans and, in a base entry, has
exactly the declared indexes. Comments, values and indexes themselves are read whatever they
hold.
-/

namespace ResourceAudit.Check

/-! ## Specifiers -/

/-- A value uses an index whose parameter is numeric with a precision of `n` digits, which
are too many. -/
def OverlongUse (parameters : List Parameter) (value : String) (n : Nat) : Prop :=
  ∃ index t parameter, (index, t) ∈ (Format.scan value).uses ∧
    parameters[index]? = some parameter ∧ Verdict.Overlong parameter.type t n

section Specifiers

variable {name value : String} {parameters : List Parameter} {f : Failure}

theorem specifierUse_eq_error_iff {index : Nat} {t : String} :
    specifierUse name value parameters ((index : Int), t) = .error f ↔
      ∃ parameter n, parameters[index]? = some parameter ∧
        Verdict.Overlong parameter.type t n ∧ f = .precisionTooLong n := by
  rw [specifierUse_index]
  cases parameters[index]? with
  | none => simp
  | some parameter =>
      dsimp only
      rw [Attempt.map_eq_error, Verdict.of_eq_error_iff]
      constructor
      · rintro ⟨n, hfailure, hlong⟩
        exact ⟨parameter, n, rfl, hlong, hfailure⟩
      · rintro ⟨_, n, heq, hlong, hfailure⟩
        cases heq
        exact ⟨n, hfailure, hlong⟩

theorem overlongUse_of_specifiers
    (h : specifiers name value parameters (signedUses (Format.scan value)) = .error f) :
    ∃ n, f = .precisionTooLong n ∧ OverlongUse parameters value n := by
  obtain ⟨use, huse, hfailed⟩ := Attempt.exists_of_mapM_eq_error (Attempt.map_eq_error.mp h)
  obtain ⟨⟨index, t⟩, hmem, rfl⟩ := List.mem_map.mp huse
  obtain ⟨parameter, n, hparameter, hlong, hfailure⟩ := specifierUse_eq_error_iff.mp hfailed
  exact ⟨n, hfailure, index, t, parameter, hmem, hparameter, hlong⟩

theorem specifiers_fails (name : String) {n : Nat} (h : OverlongUse parameters value n) :
    ∃ f, specifiers name value parameters (signedUses (Format.scan value)) = .error f := by
  obtain ⟨index, t, parameter, hmem, hparameter, hlong⟩ := h
  have hfailed : specifierUse name value parameters ((index : Int), t) =
      .error (.precisionTooLong n) :=
    specifierUse_eq_error_iff.mpr ⟨parameter, n, hparameter, hlong, rfl⟩
  have hsigned : ((index : Int), t) ∈ signedUses (Format.scan value) :=
    List.mem_map.mpr ⟨_, hmem, rfl⟩
  obtain ⟨f, hf⟩ := Attempt.exists_error_of_mem hsigned ⟨_, hfailed⟩
  exact ⟨f, Attempt.map_eq_error.mpr hf⟩

/-- Without parameters there is no precision that could be too long. -/
theorem not_overlongUse_nil {n : Nat} : ¬ OverlongUse [] value n := by
  rintro ⟨_, _, _, -, hparameter, -⟩
  cases hparameter

end Specifiers

/-! ## Base entries -/

/-- A string entry whose check comes to an overlong precision. -/
structure OverlongEntry (e : Entry) (parameters : List Parameter) (n : Nat) : Prop where
  string : e.isInclude = false
  declared : Mode.ofComment e.comment = .ok (.parameterized parameters)
  scans : (Format.scan e.value).error = none
  indexes : (Format.scan e.value).indexes = List.range parameters.length
  overlong : OverlongUse parameters e.value n

section Entry

variable {policy : Policy} {file : Option String} {e : Entry} {f : Failure}

theorem overlong_of_parameterizedEntry {parameters : List Parameter}
    (h : parameterizedEntry file e (Format.scan e.value) parameters = .error f) :
    (Format.scan e.value).indexes = List.range parameters.length ∧
      ∃ n, f = .precisionTooLong n ∧ OverlongUse parameters e.value n := by
  cases hindex : indexFinding? e.name (Format.scan e.value) parameters.length with
  | some found =>
      rw [parameterizedEntry_found hindex] at h
      cases h
  | none =>
      rw [parameterizedEntry_exact hindex, Attempt.map_eq_error] at h
      exact ⟨(indexFinding?_eq_none_iff.mp hindex).2, overlongUse_of_specifiers h⟩

theorem scan_of_formatEntry_eq_error {declared : Option (List Parameter)}
    (h : formatEntry policy file e declared = .error f) : (Format.scan e.value).error = none := by
  by_contra hscan
  obtain ⟨error, hscan⟩ := Option.ne_none_iff_exists'.mp hscan
  rw [formatEntry_malformed hscan] at h
  cases h

theorem overlong_of_entry (h : entry policy file e = .error f) :
    ∃ parameters n, f = .precisionTooLong n ∧ OverlongEntry e parameters n := by
  unfold entry at h
  by_cases hinclude : e.isInclude = true
  · rw [if_pos hinclude] at h
    cases h
  · rw [if_neg hinclude] at h
    have hstring : e.isInclude = false := Bool.eq_false_iff.mpr hinclude
    unfold stringEntry at h
    cases hmode : Mode.ofComment e.comment with
    | error refusal =>
        rw [hmode] at h
        cases h
    | ok mode =>
        rw [hmode] at h
        cases mode with
        | suppressed => cases h
        | enumeration variants =>
            dsimp only at h
            split at h <;> cases h
        | plain =>
            dsimp only at h
            rw [formatEntry_none (scan_of_formatEntry_eq_error h)] at h
            cases h
        | parameterized parameters =>
            dsimp only at h
            have hscan := scan_of_formatEntry_eq_error h
            rw [formatEntry_some hscan] at h
            obtain ⟨hindexes, n, rfl, hlong⟩ := overlong_of_parameterizedEntry h
            exact ⟨parameters, n, rfl, hstring, hmode, hscan, hindexes, hlong⟩

theorem entry_fails (policy : Policy) (file : Option String) {parameters : List Parameter}
    {n : Nat} (h : OverlongEntry e parameters n) : ∃ f, entry policy file e = .error f := by
  have hpos : 0 < parameters.length := by
    rw [List.length_pos_iff]
    rintro rfl
    exact not_overlongUse_nil h.overlong
  have hindex : indexFinding? e.name (Format.scan e.value) parameters.length = none :=
    indexFinding?_eq_none_iff.mpr ⟨hpos, h.indexes⟩
  have hstring : ¬ e.isInclude = true := Bool.eq_false_iff.mp h.string
  obtain ⟨f, hf⟩ := specifiers_fails e.name h.overlong
  refine ⟨f, ?_⟩
  unfold entry
  rw [if_neg hstring]
  unfold stringEntry
  rw [h.declared]
  dsimp only
  rw [formatEntry_some h.scans, parameterizedEntry_exact hindex]
  exact Attempt.map_eq_error.mpr hf

theorem overlong_of_baseEntries {file : String} {entries : List Entry}
    (h : baseEntries policy file entries = .error f) :
    ∃ e parameters n, (e, false) ∈ Entry.markRepeats entries ∧ f = .precisionTooLong n ∧
      OverlongEntry e parameters n := by
  obtain ⟨⟨e, repeated⟩, hmem, hfailed⟩ := Attempt.exists_of_mapM_eq_error h
  cases repeated with
  | true => cases hfailed
  | false =>
      rw [baseEntry_unmarked, Attempt.map_eq_error] at hfailed
      obtain ⟨parameters, n, hfailure, hlong⟩ := overlong_of_entry hfailed
      exact ⟨e, parameters, n, hmem, hfailure, hlong⟩

theorem baseEntries_fails {file : String} {entries : List Entry} {parameters : List Parameter}
    {n : Nat} (hmem : (e, false) ∈ Entry.markRepeats entries)
    (h : OverlongEntry e parameters n) : ∃ f, baseEntries policy file entries = .error f := by
  refine Attempt.exists_error_of_mem hmem ?_
  obtain ⟨f, hf⟩ := entry_fails policy (some file) h
  refine ⟨f, ?_⟩
  rw [baseEntry_unmarked]
  exact Attempt.map_eq_error.mpr hf

end Entry

/-! ## Satellite entries -/

/-- A localized string whose verification comes to an overlong precision. -/
structure OverlongLocalized (items : List Item) (e : Entry) (item : Item) (n : Nat) : Prop where
  string : e.isInclude = false
  base : Item.find? e.name items = some item
  type : item.type = stringType
  scans : (Format.scan e.value).error = none
  overlong : OverlongUse item.parameters e.value n

section Localized

variable {ref : Reference} {file : String} {e : Entry} {f : Failure}

theorem overlong_of_localizedFormat {item : Item}
    (h : localizedFormat ref file e item = .error f) :
    (Format.scan e.value).error = none ∧
      ∃ n, f = .precisionTooLong n ∧ OverlongUse item.parameters e.value n := by
  cases hscan : (Format.scan e.value).error with
  | some error =>
      rw [localizedFormat_malformed hscan] at h
      cases h
  | none =>
      rw [localizedFormat_scanned hscan, Attempt.map_eq_error] at h
      exact ⟨rfl, overlongUse_of_specifiers h⟩

theorem overlong_of_localizedValue {item : Item} (h : localizedValue ref file e item = .error f) :
    (Format.scan e.value).error = none ∧
      ∃ n, f = .precisionTooLong n ∧ OverlongUse item.parameters e.value n := by
  unfold localizedValue at h
  cases hmode : item.mode with
  | suppressed | enumeration _ =>
      rw [hmode] at h
      cases h
  | plain | parameterized _ =>
      rw [hmode] at h
      exact overlong_of_localizedFormat h

theorem overlong_of_localizedEntry (h : localizedEntry ref file e = .error f) :
    ∃ item n, f = .precisionTooLong n ∧ OverlongLocalized ref.items e item n := by
  unfold localizedEntry at h
  cases hfind : Item.find? e.name ref.items with
  | none =>
      rw [hfind] at h
      cases h
  | some item =>
      rw [hfind] at h
      dsimp only at h
      unfold localizedItem at h
      cases htype : entryType? e with
      | none =>
          rw [htype] at h
          cases h
      | some type =>
          rw [htype] at h
          dsimp only at h
          split at h
          · cases h
          · rename_i hsame
            split at h
            · cases h
            · rename_i hinclude
              have hstring : e.isInclude = false := Bool.eq_false_iff.mpr hinclude
              obtain ⟨hscan, n, hfailure, hlong⟩ := overlong_of_localizedValue h
              have hitem : item.type = stringType := by
                rw [entryType?, if_neg hinclude, Option.some.injEq] at htype
                rw [← not_not.mp hsame, htype]
              exact ⟨item, n, hfailure, hstring, hfind, hitem, hscan, hlong⟩

theorem localizedEntry_fails {item : Item} {n : Nat}
    (h : OverlongLocalized ref.items e item n) : ∃ f, localizedEntry ref file e = .error f := by
  obtain ⟨f, hf⟩ := specifiers_fails e.name h.overlong
  refine ⟨f, ?_⟩
  have htype : e.type = none :=
    Option.isNone_iff_eq_none.mp (Option.isSome_eq_false_iff.mp h.string)
  have hformat : localizedFormat ref file e item = .error f := by
    rw [localizedFormat_scanned h.scans]
    exact Attempt.map_eq_error.mpr hf
  unfold localizedEntry
  rw [h.base]
  dsimp only
  rw [localizedItem_string htype h.type]
  unfold localizedValue
  -- A suppressed item and an enumeration have no parameters that could be used.
  cases hmode : item.mode with
  | plain | parameterized _ => exact hformat
  | suppressed | enumeration _ =>
      have hnone : item.parameters = [] := by
        rw [Item.parameters, hmode]
        rfl
      exact absurd (hnone ▸ h.overlong) not_overlongUse_nil

theorem overlong_of_satelliteEntries {s : Satellite} (h : satelliteEntries ref s = .error f) :
    ∃ e item n, (e, false) ∈ Entry.markRepeats s.entries ∧ f = .precisionTooLong n ∧
      OverlongLocalized ref.items e item n := by
  obtain ⟨⟨e, repeated⟩, hmem, hfailed⟩ :=
    Attempt.exists_of_mapM_eq_error (Attempt.map_eq_error.mp h)
  cases repeated with
  | true => cases hfailed
  | false =>
      obtain ⟨item, n, hfailure, hlong⟩ := overlong_of_localizedEntry hfailed
      exact ⟨e, item, n, hmem, hfailure, hlong⟩

theorem satelliteEntries_fails (ref : Reference) {s : Satellite} {item : Item} {n : Nat}
    (hmem : (e, false) ∈ Entry.markRepeats s.entries)
    (h : OverlongLocalized ref.items e item n) : ∃ f, satelliteEntries ref s = .error f := by
  have hentry : ∃ f, satelliteEntry ref s.file (e, false) = .error f := localizedEntry_fails h
  obtain ⟨f, hf⟩ := Attempt.exists_error_of_mem hmem hentry
  exact ⟨f, Attempt.map_eq_error.mpr hf⟩

end Localized

end ResourceAudit.Check
