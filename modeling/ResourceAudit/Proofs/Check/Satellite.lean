import ResourceAudit.Proofs.Check.Fit

/-!
# Verified satellite entries

What a clean verification of a localized string says about its value. A value whose
indexes differ from the expected ones is never clean under the strict policy, and
never without a warning under the lenient one.
-/

namespace ResourceAudit.Check

variable {ref : Reference} {file : String} {e : Entry} {item : Item} {ds : List Diagnostic}

/-- The diagnostic about a localized value with other indexes than expected. -/
def mismatch (ref : Reference) (file : String) (e : Entry) (item : Item) : Diagnostic :=
  (Finding.satellitePlaceholderMismatch e.name ref.baseFile file
    item.expectedPlaceholders.length (Format.scan e.value).indexes).gated ref.policy (some file)

theorem isError_mismatch :
    (mismatch ref file e item).isError = true ↔ ref.policy = .strict := by
  show ((ref.policy.severity == .error) = true) ↔ _
  cases ref.policy <;> decide

/-- Under the strict policy a clean verification holds no mismatch. -/
theorem mismatch_not_mem (hpolicy : ref.policy = .strict) (hclean : isClean ds = true) :
    mismatch ref file e item ∉ ds := by
  intro hmem
  have herror := isClean_iff.mp hclean _ hmem
  rw [isError_mismatch.mpr hpolicy] at herror
  exact Bool.noConfusion herror

/-- What a localized value has shown once its verification reported `ds` and none
of it is an error. -/
inductive Localizes (ref : Reference) (file : String) (e : Entry) (item : Item)
    (ds : List Diagnostic) : Prop
  | suppressed (hmode : item.mode = .suppressed)
  | enumeration (variants : List String) (hmode : item.mode = .enumeration variants)
      (hallowed : Mode.allows variants e.value = true)
  | formatted (hmode : item.mode = .plain ∨ ∃ ps, item.mode = .parameterized ps)
      (hscan : (Format.scan e.value).error = none)
      (hspecifiers : SpecifiersFit item.parameters e.value)
      (hindexes : (Format.scan e.value).indexes = item.expectedPlaceholders ∨
        mismatch ref file e item ∈ ds)

theorem localizedFormat_malformed {error : Format.ScanError}
    (hscan : (Format.scan e.value).error = some error) :
    localizedFormat ref file e item =
      .ok [(scanFinding e.name error).asError (some file)] := by
  unfold localizedFormat
  dsimp only
  rw [hscan]

/-- What is reported about a well-formed localized value: a mismatch if there is one,
then the findings about its specifiers. -/
theorem localizedFormat_scanned (hscan : (Format.scan e.value).error = none) :
    localizedFormat ref file e item =
      (specifiers e.name e.value item.parameters (signedUses (Format.scan e.value))).map
        fun found =>
          (if (Format.scan e.value).usesExactly item.expectedPlaceholders then []
            else [mismatch ref file e item]) ++ reportAll (some file) found := by
  unfold localizedFormat
  dsimp only
  rw [hscan]
  show (specifiers e.name e.value item.parameters _ >>= _) = _
  cases specifiers e.name e.value item.parameters (signedUses (Format.scan e.value)) <;> rfl

theorem localizedFormat_spec (h : localizedFormat ref file e item = .ok ds)
    (hclean : isClean ds = true) :
    (Format.scan e.value).error = none ∧ SpecifiersFit item.parameters e.value ∧
      ((Format.scan e.value).indexes = item.expectedPlaceholders ∨
        mismatch ref file e item ∈ ds) := by
  cases hscan : (Format.scan e.value).error with
  | some error =>
      rw [localizedFormat_malformed hscan] at h
      cases h
      exact absurd hclean (by simp)
  | none =>
      rw [localizedFormat_scanned hscan] at h
      obtain ⟨found, hfound, rfl⟩ := Attempt.map_eq_ok.mp h
      rw [isClean_append, Bool.and_eq_true] at hclean
      refine ⟨rfl, specifiersFit_of_isClean hfound hclean.2, ?_⟩
      by_cases hexact : (Format.scan e.value).usesExactly item.expectedPlaceholders = true
      · exact Or.inl (beq_iff_eq.mp hexact)
      · rw [if_neg hexact]
        exact Or.inr (List.mem_append_left _ List.mem_cons_self)

theorem localizes_of_localizedValue (h : localizedValue ref file e item = .ok ds)
    (hclean : isClean ds = true) : Localizes ref file e item ds := by
  unfold localizedValue at h
  cases hmode : item.mode with
  | suppressed => exact .suppressed hmode
  | enumeration variants =>
      rw [hmode] at h
      cases h
      refine .enumeration variants hmode ?_
      by_contra hrefused
      rw [if_neg hrefused] at hclean
      exact absurd hclean (by simp)
  | plain =>
      rw [hmode] at h
      obtain ⟨hscan, hspecifiers, hindexes⟩ := localizedFormat_spec h hclean
      exact .formatted (Or.inl hmode) hscan hspecifiers hindexes
  | parameterized parameters =>
      rw [hmode] at h
      obtain ⟨hscan, hspecifiers, hindexes⟩ := localizedFormat_spec h hclean
      exact .formatted (Or.inr ⟨parameters, hmode⟩) hscan hspecifiers hindexes

theorem isInclude_of_type (htype : e.type = none) : e.isInclude = false := by
  rw [Entry.isInclude, htype]
  rfl

theorem type_of_not_isInclude (h : e.isInclude = false) : e.type = none :=
  Option.not_isSome_iff_eq_none.mp (Bool.eq_false_iff.mp h)

theorem entryType?_string (htype : e.type = none) : entryType? e = some stringType := by
  rw [entryType?, isInclude_of_type htype]
  rfl

/-- A string entry whose type is that of the item is verified by its value alone. -/
theorem localizedItem_string (htype : e.type = none) (hitem : item.type = stringType) :
    localizedItem ref file e item = localizedValue ref file e item := by
  unfold localizedItem
  rw [entryType?_string htype, isInclude_of_type htype, hitem]
  simp

/-- **A clean string entry.** It has the type of its item, and its value has been
verified against the mode of the item. -/
theorem localizes_of_localizedEntry (h : localizedEntry ref file e = .ok ds)
    (hclean : isClean ds = true) (htype : e.type = none)
    (hfind : Item.find? e.name ref.items = some item) :
    item.type = stringType ∧ Localizes ref file e item ds := by
  unfold localizedEntry at h
  rw [hfind] at h
  by_cases hitem : item.type = stringType
  · refine ⟨hitem, ?_⟩
    dsimp only at h
    rw [localizedItem_string htype hitem] at h
    exact localizes_of_localizedValue h hclean
  · dsimp only at h
    unfold localizedItem at h
    rw [entryType?_string htype] at h
    dsimp only at h
    rw [if_pos (Ne.symm hitem)] at h
    cases h
    exact absurd hclean (by simp)

/-- A satellite of a single entry says what its entry says. -/
theorem satellite_single (ref : Reference) (file : String) (e : Entry) :
    satellite ref ⟨file, [e]⟩ = localizedEntry ref file e := by
  unfold satellite
  rw [List.mapM_cons, List.mapM_nil]
  cases localizedEntry ref file e with
  | error failure => rfl
  | ok ds => exact congrArg Except.ok (List.append_nil ds)

end ResourceAudit.Check
