import ResourceAudit.Proofs.Declaration.Reading

/-!
# Well-formed parameters

A type is read without the blanks in it, so that it is a dotted name with an optional
marker, and a name is an identifier. Every parameter that is read is of this form
(`wellFormed_of_parse?`), and every parameter of this form is read back from its
declaration (`parse?_declaration`).
-/

namespace ResourceAudit.Parameter

open Text (isWord allBlank)

/-- A parameter as declarations are read: a dotted name with an optional marker, and an
identifier. -/
inductive WellFormed : Parameter → Prop
  | mk (type marker name : List Char) (htype : Dotted type)
      (hmarker : marker = [] ∨ marker = ['?']) (hname : Identifier.Valid name) :
      WellFormed ⟨String.ofList (type ++ marker), String.ofList name⟩

/-- Whatever blanks stood in its text, a parameter that was read is well formed. -/
theorem wellFormed_of_parse? {text : String} {p : Parameter} (h : parse? text = some p) :
    p.WellFormed := by
  obtain ⟨r, rfl⟩ := exists_reading h
  exact .mk _ _ _ r.spaced.dotted r.marked r.valid_name

namespace WellFormed

variable {p : Parameter}

theorem toList_declaration (type name : String) :
    (declaration ⟨type, name⟩).toList = type.toList ++ ' ' :: name.toList := by
  unfold declaration
  rw [String.toList_append, String.toList_append, List.append_assoc]
  rfl

/-- **Declarations are read back.** Blanks in front of one do not matter. -/
theorem parse?_append (h : p.WellFormed) {w : List Char} (hw : allBlank w = true) :
    parse? (String.ofList (w ++ p.declaration.toList)) = some p := by
  obtain ⟨type, marker, name, htype, hmarker, hname⟩ := h
  have htext : (String.ofList (w ++ (declaration ⟨String.ofList (type ++ marker),
      String.ofList name⟩).toList)).toList =
        w ++ (type ++ ([] ++ (marker ++ ([' '] ++ (name ++ []))))) := by
    rw [String.toList_ofList, toList_declaration, String.toList_ofList, String.toList_ofList]
    simp
  have hread := parse?_of_reading ⟨w, type, [], marker, [' '], name, [], hw, htype.spaced, rfl,
    hmarker, rfl, by simp, hname, rfl, htext⟩
  rw [hread, Reading.parameter, htype.withoutBlank_eq]

theorem parse?_declaration (h : p.WellFormed) : parse? p.declaration = some p := by
  have hread := h.parse?_append (w := []) rfl
  rwa [List.nil_append, String.ofList_toList] at hread

/-- The characters of a declaration. -/
theorem mem_declaration (h : p.WellFormed) {c : Char} (hc : c ∈ p.declaration.toList) :
    isWord c = true ∨ c ∈ ['@', '.', '?', ' '] := by
  obtain ⟨type, marker, name, htype, hmarker, hname⟩ := h
  rw [toList_declaration, String.toList_ofList, String.toList_ofList] at hc
  simp only [List.mem_append, List.mem_cons, List.not_mem_nil, or_false] at hc ⊢
  rcases hc with (hc | hc) | rfl | hc
  · rcases htype.mem hc with rfl | rfl | hword
    · exact Or.inr (Or.inr (Or.inl rfl))
    · exact Or.inr (Or.inl rfl)
    · exact Or.inl hword
  · rcases hmarker with rfl | rfl
    · exact absurd hc List.not_mem_nil
    · exact Or.inr (Or.inr (Or.inr (Or.inl (List.mem_singleton.mp hc))))
  · exact Or.inr (Or.inr (Or.inr (Or.inr rfl)))
  · rcases hname.mem hc with rfl | hword
    · exact Or.inr (Or.inl rfl)
    · exact Or.inl hword

end WellFormed

end ResourceAudit.Parameter
