import ResourceAudit.Proofs.Text.Blank
import ResourceAudit.Specifier.Verdict

/-!
# Spellings of a type name

A verdict depends on a type name through its category only, and the category is that of the
normalized name. So blanks do not count wherever they stand (`Respaced`), nor does one marker at
the end. A name within the `System` namespace has the category of the name alone if that begins
with a capital: no name of the table is qualified, and no other name is looked up twice.
-/

namespace ResourceAudit

open Text (isBlank withoutBlank)

/-- Blanks are put in and taken out anywhere. -/
inductive Respaced (written : List Char) : List Char → Prop
  | refl : Respaced written written
  | insert (front : List Char) {c : Char} (back : List Char) (hblank : isBlank c = true)
      (h : Respaced written (front ++ back)) : Respaced written (front ++ c :: back)
  | remove (front : List Char) {c : Char} (back : List Char) (hblank : isBlank c = true)
      (h : Respaced written (front ++ c :: back)) : Respaced written (front ++ back)

namespace Respaced

variable {written cs : List Char}

theorem withoutBlank_eq (h : Respaced written cs) : withoutBlank cs = withoutBlank written := by
  induction h with
  | refl => rfl
  | insert front back hblank _ ih =>
      rw [← ih, Text.withoutBlank_append, Text.withoutBlank_append,
        Text.withoutBlank_cons_of_blank hblank]
  | remove front back hblank _ ih =>
      rw [← ih, Text.withoutBlank_append, Text.withoutBlank_append,
        Text.withoutBlank_cons_of_blank hblank]

end Respaced

namespace Category

/-! ## Normalized names -/

/-- A text without one trailing marker. -/
def unmarked (cs : List Char) : List Char :=
  if cs.getLast? = some '?' then cs.dropLast else cs

theorem toList_normalize (typeName : String) :
    (normalize typeName).toList = unmarked (withoutBlank typeName.toList) :=
  String.toList_ofList

theorem normalize_eq_of_respaced {typeName written : String}
    (h : Respaced typeName.toList written.toList) : normalize written = normalize typeName := by
  apply String.toList_injective
  rw [toList_normalize, toList_normalize, h.withoutBlank_eq]

/-- A marker after a name that has none. -/
theorem normalize_marked {typeName : String}
    (h : (withoutBlank typeName.toList).getLast? ≠ some '?') :
    normalize (typeName ++ "?") = normalize typeName := by
  apply String.toList_injective
  have hmarker : withoutBlank "?".toList = ['?'] := rfl
  rw [toList_normalize, toList_normalize, String.toList_append, Text.withoutBlank_append, hmarker]
  unfold unmarked
  rw [if_neg h, if_pos List.getLast?_concat, List.dropLast_concat]

/-- A namespace in front leaves the end of a name as it is. -/
theorem unmarked_append {front cs : List Char} (h : unmarked front = front) :
    unmarked (front ++ cs) = front ++ unmarked cs := by
  cases cs with
  | nil =>
      rw [List.append_nil, h]
      exact (List.append_nil front).symm
  | cons c cs =>
      unfold unmarked
      rw [List.getLast?_append_cons]
      by_cases hmarker : (c :: cs).getLast? = some '?'
      · rw [if_pos hmarker, if_pos hmarker, List.dropLast_append_cons]
      · rw [if_neg hmarker, if_neg hmarker]

theorem normalize_qualified (typeName : String) :
    normalize (systemNamespace ++ typeName) = systemNamespace ++ normalize typeName := by
  apply String.toList_injective
  have hnamespace : withoutBlank systemNamespace.toList = systemNamespace.toList := by decide
  rw [toList_normalize, String.toList_append, String.toList_append, toList_normalize,
    Text.withoutBlank_append, hnamespace]
  exact unmarked_append (by decide)

/-! ## The names of the table -/

def builtinNames : List String :=
  ["string", "String", "DateTime", "DateTimeOffset", "Guid", "TimeSpan"] ++ numericTypes

theorem builtin?_eq_none {name : String} (h : name ∉ builtinNames) : builtin? name = none := by
  simp only [builtinNames, List.mem_append, List.mem_cons, List.not_mem_nil, or_false,
    not_or] at h
  obtain ⟨⟨hlower, htext, hdate, hoffset, hguid, hspan⟩, hnumeric⟩ := h
  unfold builtin?
  simp [hlower, htext, hdate, hoffset, hguid, hspan, hnumeric]

theorem not_qualified_of_mem :
    ∀ name ∈ builtinNames, ¬ systemNamespace.toList <+: name.toList := by decide +kernel

theorem ascii_of_mem {name : String} (hname : name ∈ builtinNames) {c : Char}
    (hc : c ∈ name.toList) : c.toNat < 128 := by
  have hall : (builtinNames.all fun name => name.toList.all fun c => c.toNat < 128) = true := by
    decide +kernel
  have hchars := List.all_eq_true.mp hall name hname
  exact of_decide_eq_true (List.all_eq_true.mp hchars c hc)

/-- A name within the namespace is not in the table as it stands. -/
theorem builtin?_of_qualified {name : String} (h : systemNamespace.toList <+: name.toList) :
    builtin? name = none := by
  apply builtin?_eq_none
  intro hmem
  exact not_qualified_of_mem name hmem h

/-! ## Qualified names -/

theorem unqualified?_of_not_qualified {name : String}
    (h : ¬ systemNamespace.toList <+: name.toList) : unqualified? name = none := by
  unfold unqualified?
  rw [← List.isPrefixOf_iff_prefix, Bool.not_eq_true] at h
  rw [h]

theorem ofNormalized_of_not_qualified {name : String}
    (h : ¬ systemNamespace.toList <+: name.toList) :
    ofNormalized name = (builtin? name).getD enumLike := by
  unfold ofNormalized
  rw [unqualified?_of_not_qualified h]
  cases builtin? name <;> rfl

theorem unqualified?_qualified (name : String) :
    unqualified? (systemNamespace ++ name) =
      if name.toList.head?.any Char.isUpper then some name else none := by
  have hprefix : systemNamespace.toList.isPrefixOf (systemNamespace.toList ++ name.toList) = true :=
    List.isPrefixOf_iff_prefix.mpr (List.prefix_append _ _)
  have hname : name = String.ofList name.toList := String.ofList_toList.symm
  unfold unqualified?
  rw [String.toList_append, hprefix, List.drop_left]
  cases hcs : name.toList with
  | nil => rfl
  | cons c cs =>
      rw [hname, hcs]
      simp

theorem ofNormalized_qualified (name : String) :
    ofNormalized (systemNamespace ++ name) =
      if name.toList.head?.any Char.isUpper then (builtin? name).getD enumLike else enumLike := by
  have hprefix : systemNamespace.toList <+: (systemNamespace ++ name).toList := by
    rw [String.toList_append]
    exact List.prefix_append _ _
  unfold ofNormalized
  rw [builtin?_of_qualified hprefix, unqualified?_qualified]
  by_cases hcapital : name.toList.head?.any Char.isUpper = true
  · rw [if_pos hcapital, if_pos hcapital]
    rfl
  · rw [if_neg hcapital, if_neg hcapital]
    rfl

/-- Names of the table begin with ASCII characters, so it does not matter which others are taken
for capitals. -/
theorem ofTypeName_qualified {isCapital : Char → Bool}
    (hcapital : ∀ c, c.toNat < 128 → isCapital c = c.isUpper) {typeName : String}
    (h : ¬ systemNamespace.toList <+: (normalize typeName).toList) :
    ofTypeName (systemNamespace ++ typeName) =
      if (normalize typeName).toList.head?.any isCapital then ofTypeName typeName
      else enumLike := by
  unfold ofTypeName
  rw [normalize_qualified, ofNormalized_qualified, ofNormalized_of_not_qualified h]
  -- Only for a name of the table does it matter what is taken for a capital.
  by_cases hmem : normalize typeName ∈ builtinNames
  · have hsame : (normalize typeName).toList.head?.any isCapital =
        (normalize typeName).toList.head?.any Char.isUpper := by
      cases hcs : (normalize typeName).toList with
      | nil => rfl
      | cons c cs =>
          apply hcapital
          apply ascii_of_mem hmem
          rw [hcs]
          exact List.mem_cons_self
    rw [hsame]
  · rw [builtin?_eq_none hmem]
    simp

end Category

/-! ## Verdicts -/

theorem Verdict.of_congr {typeName written : String}
    (h : Category.normalize written = Category.normalize typeName) (specifier : String) :
    of written specifier = of typeName specifier := by
  unfold of Category.ofTypeName
  rw [h]

/-- **The spelling of a type name does not count.** Blanks anywhere leave every verdict as it is,
and so does a marker after a name that does not end in one. A name that is not yet within the
`System` namespace has the same category within it, if it begins with a capital, and is taken
for an enumeration there if not. -/
theorem spelling_does_not_count (isCapital : Char → Bool)
    (hcapital : ∀ c, c.toNat < 128 → isCapital c = c.isUpper) (typeName specifier : String) :
    (∀ written : String, Respaced typeName.toList written.toList →
        Verdict.of written specifier = Verdict.of typeName specifier) ∧
      ((withoutBlank typeName.toList).getLast? ≠ some '?' →
        Verdict.of (typeName ++ "?") specifier = Verdict.of typeName specifier) ∧
      (¬ "System.".toList <+: (Category.normalize typeName).toList →
        Category.ofTypeName ("System." ++ typeName) =
          if (Category.normalize typeName).toList.head?.any isCapital then
            Category.ofTypeName typeName
          else .enumLike) := by
  refine ⟨?_, ?_, ?_⟩
  · intro written h
    exact Verdict.of_congr (Category.normalize_eq_of_respaced h) specifier
  · intro h
    exact Verdict.of_congr (Category.normalize_marked h) specifier
  · intro h
    exact Category.ofTypeName_qualified hcapital h

/-- Blanks within a name and before its marker, a marker after a name, and the namespace in front
of a capital, of a keyword and of nothing at all. -/
theorem spelling_does_not_count_int32 :
    Verdict.of "System . Int32 ?" "N2" = .ok .valid ∧ Verdict.of "Int32?" "N2" = .ok .valid ∧
      Category.ofTypeName "System.Int32" = .numeric ∧
      Category.ofTypeName "System.int" = .enumLike ∧ Category.ofTypeName "System." = .enumLike := by
  have hspelled := spelling_does_not_count Char.isUpper (fun _ _ => rfl)
  have hspaced : Respaced "System.Int32?".toList "System . Int32 ?".toList :=
    .insert "System . Int32".toList ['?'] rfl
      (.insert "System .".toList "Int32?".toList rfl
        (.insert "System".toList ".Int32?".toList rfl .refl))
  obtain ⟨hblanks, -, -⟩ := hspelled "System.Int32?" "N2"
  obtain ⟨-, hmarked, hcapital⟩ := hspelled "Int32" "N2"
  obtain ⟨-, -, hkeyword⟩ := hspelled "int" "N2"
  obtain ⟨-, -, hbare⟩ := hspelled "" "N2"
  refine ⟨?_, ?_, ?_, ?_, ?_⟩
  · rw [hblanks _ hspaced]
    decide +kernel
  · refine (hmarked (by decide +kernel)).trans ?_
    decide +kernel
  · refine (hcapital (by decide +kernel)).trans ?_
    decide +kernel
  · exact hkeyword (by decide +kernel)
  · exact hbare (by decide +kernel)

end ResourceAudit
