import Mathlib.Data.List.Sort
import ResourceAudit.Check.Entry
import ResourceAudit.Proofs.Check.Clean
import ResourceAudit.Proofs.Collection.Attempt
import ResourceAudit.Proofs.Format.Views

/-!
# Values that fit a declaration

A value fits declared parameters if its indexes are exactly those of the parameters
and each specifier formats the type of its parameter. The index check and the
specifier check decide the two halves: `indexFinding?_eq_none_iff` and
`specifiersFit_of_isClean`.
-/

namespace ResourceAudit.Check

/-- No specifier is invalid for the type of the parameter that its index binds. -/
def SpecifiersFit (parameters : List Parameter) (value : String) : Prop :=
  ∀ index t, (index, t) ∈ (Format.scan value).uses →
    ∀ parameter, parameters[index]? = some parameter →
      ∃ verdict, Verdict.of parameter.type t = .ok verdict ∧ verdict ≠ .invalid

/-- The indexes of a value are exactly those of the parameters. -/
def IndexesFit (parameters : List Parameter) (value : String) : Prop :=
  ∀ index, index ∈ (Format.scan value).indexes ↔ index < parameters.length

/-- What a formatting function with the given parameters may rely on. -/
structure Fits (parameters : List Parameter) (value : String) : Prop where
  declared : 1 ≤ parameters.length
  scans : (Format.scan value).error = none
  indexes : IndexesFit parameters value
  specifiers : SpecifiersFit parameters value

/-! ## The index check -/

/-- Ascending indexes are all indexes below a number exactly if they have the same
members. -/
theorem indexes_eq_range_iff (s : Format.Scan) (n : Nat) :
    s.indexes = List.range n ↔ ∀ index, index ∈ s.indexes ↔ index < n := by
  constructor
  · intro h index
    rw [h, List.mem_range]
  · intro h
    refine s.pairwise_indexes.eq_of_mem_iff List.pairwise_lt_range ?_
    intro index
    rw [h index, List.mem_range]

theorem firstMissing_eq_none_iff {s : Format.Scan} {n : Nat} :
    s.firstMissing n = none ↔ ∀ index < n, index ∈ s.indexes := by
  unfold Format.Scan.firstMissing
  rw [List.find?_eq_none]
  constructor
  · intro h index hlt
    have hnot := h index (List.mem_range.mpr hlt)
    simpa using hnot
  · intro h index hmem
    have hin := h index (List.mem_range.mp hmem)
    simpa using hin

theorem firstOutOfRange_eq_none_iff {s : Format.Scan} {n : Nat} :
    s.firstOutOfRange n = none ↔ ∀ index ∈ s.indexes, index < n := by
  unfold Format.Scan.firstOutOfRange
  rw [List.find?_eq_none]
  simp only [decide_eq_true_eq, Nat.not_le]

/-- As many indexes as parameters, and none missing: then there is no other index
either. -/
theorem indexes_eq_range_of_count {s : Format.Scan} {n : Nat} (hcount : s.count = n)
    (hall : ∀ index < n, index ∈ s.indexes) : s.indexes = List.range n := by
  have hsubset : List.range n ⊆ s.indexes := by
    intro index hmem
    exact hall index (List.mem_range.mp hmem)
  have hsubperm : (List.range n).Subperm s.indexes :=
    List.subperm_of_subset List.nodup_range hsubset
  have hlength : s.indexes.length ≤ (List.range n).length := by
    rw [List.length_range]
    exact Nat.le_of_eq hcount
  have hperm := hsubperm.perm_of_length_le hlength
  exact (hperm.eq_of_pairwise' List.pairwise_lt_range s.pairwise_indexes).symm

/-- If the indexes are not as many as declared, one of the searches succeeds: a set of another
size cannot be all the indexes below a number. -/
theorem exists_index_of_count_ne {s : Format.Scan} {n : Nat} (h : s.count ≠ n) :
    ∃ index, (s.firstOutOfRange n <|> s.firstMissing n) = some index := by
  rw [← Option.ne_none_iff_exists']
  intro hnone
  simp only [Option.orElse_eq_orElse, Option.orElse_eq_or, Option.or_eq_none_iff] at hnone
  obtain ⟨hrange, hmissing⟩ := hnone
  have hindexes : s.indexes = List.range n := by
    rw [indexes_eq_range_iff]
    intro index
    exact ⟨firstOutOfRange_eq_none_iff.mp hrange index, firstMissing_eq_none_iff.mp hmissing index⟩
  apply h
  rw [Format.Scan.count, hindexes, List.length_range]

/-- **The index check is exact.** It finds nothing if and only if something is
declared and the indexes of the value are those of the declaration. -/
theorem indexFinding?_eq_none_iff {name : String} {s : Format.Scan} {n : Nat} :
    indexFinding? name s n = none ↔ 0 < n ∧ s.indexes = List.range n := by
  unfold indexFinding?
  constructor
  · intro h
    split at h
    · cases h
    · rename_i hpos
      split at h
      · rename_i hne
        obtain ⟨index, hindex⟩ := exists_index_of_count_ne hne
        rw [hindex] at h
        cases h
      · rename_i hcount
        have hcount : s.count = n := not_not.mp hcount
        have hmissing := firstMissing_eq_none_iff.mp (Option.map_eq_none_iff.mp h)
        refine ⟨?_, indexes_eq_range_of_count hcount hmissing⟩
        omega
  · rintro ⟨hpos, heq⟩
    have hcount : s.count = n := by
      rw [Format.Scan.count, heq, List.length_range]
    have hmissing : s.firstMissing n = none := by
      rw [firstMissing_eq_none_iff]
      intro index hlt
      rw [heq]
      exact List.mem_range.mpr hlt
    rw [if_neg (by omega), if_neg (by omega), hmissing]
    rfl

/-! ## The specifier check -/

variable {name value : String} {parameters : List Parameter}

/-- What is found about a use of an index: nothing beyond the declaration, and
otherwise the verdict for the type of the parameter. -/
theorem specifierUse_index (index : Nat) (t : String) :
    specifierUse name value parameters ((index : Int), t) =
      match parameters[index]? with
      | none => .ok none
      | some parameter =>
          (Verdict.of parameter.type t).map (specifierFinding name value t parameter) := by
  have hbound : Parameter.bound? parameters (index : Int) = .ok parameters[index]? := rfl
  unfold specifierUse
  rw [hbound]
  cases parameters[index]? with
  | none => rfl
  | some parameter =>
      show (Verdict.of parameter.type t >>= _) = (Verdict.of parameter.type t).map _
      cases Verdict.of parameter.type t <;> rfl

/-- Each use of a specifier has been judged on its own. -/
theorem exists_finding_of_specifiers {scan : Format.Scan} {found : List Finding}
    (h : specifiers name value parameters (signedUses scan) = .ok found)
    {index : Nat} {t : String} (huse : (index, t) ∈ scan.uses) :
    ∃ finding : Option Finding,
      specifierUse name value parameters ((index : Int), t) = .ok finding ∧
        ∀ f, finding = some f → f ∈ found := by
  obtain ⟨findings, hfindings, hfound⟩ := Attempt.map_eq_ok.mp h
  have hsigned : ((index : Int), t) ∈ signedUses scan := List.mem_map.mpr ⟨_, huse, rfl⟩
  obtain ⟨finding, hmem, hjudged⟩ := Attempt.exists_of_mem hfindings hsigned
  refine ⟨finding, hjudged, ?_⟩
  rintro f rfl
  rw [← hfound]
  exact List.mem_filterMap.mpr ⟨some f, hmem, rfl⟩

theorem specifiersFit_of_isClean {found : List Finding} {file : Option String}
    (h : specifiers name value parameters (signedUses (Format.scan value)) = .ok found)
    (hclean : isClean (reportAll file found) = true) : SpecifiersFit parameters value := by
  intro index t huse parameter hparameter
  obtain ⟨finding, hjudged, hfound⟩ := exists_finding_of_specifiers h huse
  rw [specifierUse_index, hparameter] at hjudged
  obtain ⟨verdict, hverdict, hfinding⟩ := Attempt.map_eq_ok.mp hjudged
  refine ⟨verdict, hverdict, ?_⟩
  rintro rfl
  -- The finding of an invalid specifier would have been reported as an error.
  have hmem := hfound _ hfinding.symm
  have herror := isClean_iff.mp hclean _ (List.mem_map.mpr ⟨_, hmem, rfl⟩)
  exact Bool.noConfusion herror

/-- Without parameters nothing is found about any specifier. -/
theorem specifiers_nil (scan : Format.Scan) :
    specifiers name value [] (signedUses scan) = .ok [] := by
  unfold specifiers signedUses
  induction scan.uses with
  | nil => rfl
  | cons use uses ih =>
      obtain ⟨findings, hfindings, hnone⟩ := Attempt.map_eq_ok.mp ih
      refine Attempt.map_eq_ok.mpr ⟨none :: findings, ?_, hnone⟩
      rw [List.map_cons, List.mapM_cons, hfindings, specifierUse_index]
      rfl

/-- What is found about specifiers has a code of its own. -/
theorem code_of_mem_specifiers {uses : List (Int × String)} {found : List Finding}
    (h : specifiers name value parameters uses = .ok found) {f : Finding} (hf : f ∈ found) :
    f.code = .invalidFormatSpecifier ∨ f.code = .specifierOnText := by
  obtain ⟨findings, hfindings, rfl⟩ := Attempt.map_eq_ok.mp h
  obtain ⟨finding, hmem, rfl⟩ := List.mem_filterMap.mp hf
  obtain ⟨use, -, hjudged⟩ := Attempt.exists_of_mem_result hfindings hmem
  obtain ⟨bound, -, hjudged⟩ := Attempt.bind_eq_ok.mp hjudged
  cases bound with
  | none => cases hjudged
  | some parameter =>
      obtain ⟨verdict, -, hfinding⟩ := Attempt.bind_eq_ok.mp hjudged
      have hsome := Except.ok.inj hfinding
      cases verdict with
      | valid => cases hsome
      | invalid =>
          cases hsome
          exact Or.inl rfl
      | ineffective =>
          cases hsome
          exact Or.inr rfl

end ResourceAudit.Check
