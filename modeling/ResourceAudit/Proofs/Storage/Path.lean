import Mathlib.Data.String.Basic
import ResourceAudit.Proofs.Storage.Order
import ResourceAudit.Proofs.Text.Pieces

/-!
# Paths and their texts

Reading a path leaves components that are not empty, not `.` and hold no slash. Such a path is
read back from its text (`ofString_text`), and the text from its pieces, so any two of them compare
(`Proper.comparable`).
-/

namespace ResourceAudit

namespace Path

/-- A component as reading a path leaves it. -/
structure IsComponent (c : String) : Prop where
  ne_empty : c ≠ ""
  ne_dot : c ≠ "."
  no_slash : '/' ∉ c.toList

/-- A path that can have been read. -/
def Proper (p : Path) : Prop :=
  ∀ c ∈ p.components, IsComponent c

theorem proper_ofString (text : String) : (ofString text).Proper := by
  intro c hc
  obtain ⟨hmem, hkept⟩ := List.mem_filter.mp hc
  obtain ⟨piece, hpiece, rfl⟩ := List.mem_map.mp hmem
  simp only [ne_eq, decide_not, Bool.and_eq_true, Bool.not_eq_true',
    decide_eq_false_iff_not] at hkept
  refine ⟨hkept.1, hkept.2, ?_⟩
  rw [String.toList_ofList]
  intro hslash
  exact (Text.mem_of_mem_piece hpiece hslash).2 rfl

theorem Proper.append {p : Path} {rest : List String} (hp : p.Proper)
    (hrest : ∀ c ∈ rest, IsComponent c) : (p.append rest).Proper := by
  intro c hc
  rcases List.mem_append.mp hc with hc | hc
  · exact hp c hc
  · exact hrest c hc

/-! ## Texts -/

section Text

variable {cs : List String} (h : ∀ c ∈ cs, IsComponent c)

include h

/-- The components of a path are those pieces of its text that count. -/
theorem filter_pieces_intercalate :
    ((Text.pieces '/' (String.intercalate "/" cs).toList).map String.ofList).filter
      (fun part => part ≠ "" && part ≠ ".") = cs := by
  by_cases hnil : cs = []
  · subst hnil
    rfl
  have hcut : Text.IsCut '/' (String.intercalate "/" cs).toList (cs.map String.toList) := by
    refine ⟨by simpa using hnil, ?_, ?_⟩
    · rw [String.toList_intercalate]
      rfl
    · intro piece hpiece
      obtain ⟨c, hc, rfl⟩ := List.mem_map.mp hpiece
      exact (h c hc).no_slash
  rw [← Text.isCut_iff.mp hcut, List.map_map]
  have hsame : cs.map (String.ofList ∘ String.toList) = cs := by simp
  rw [hsame, List.filter_eq_self]
  intro c hc
  simp [(h c hc).ne_empty, (h c hc).ne_dot]

/-- The text of a relative path does not begin with a slash. -/
theorem head?_intercalate_ne : (String.intercalate "/" cs).toList.head? ≠ some '/' := by
  cases cs with
  | nil => simp
  | cons c cs =>
      obtain ⟨hne, -, hslash⟩ := h c List.mem_cons_self
      have hchars : c.toList ≠ [] := by simpa using hne
      obtain ⟨first, others, hc⟩ := List.exists_cons_of_ne_nil hchars
      rw [String.toList_intercalate, List.map_cons, hc]
      rintro hhead
      have hfirst : first = '/' := by
        cases cs <;> simpa [List.intercalate, List.intersperse] using hhead
      rw [hc, hfirst] at hslash
      exact hslash List.mem_cons_self

end Text

/-- An anchor is read back from its text if no slash follows. -/
theorem ofChars_text (anchor : Anchor) {cs : List Char} (h : cs.head? ≠ some '/') :
    Anchor.ofChars (anchor.text.toList ++ cs) = anchor := by
  cases cs with
  | nil => cases anchor <;> rfl
  | cons c cs =>
      have hc : c ≠ '/' := fun heq => h (congrArg some heq)
      cases anchor <;> simp [Anchor.text, Anchor.ofChars, hc]

/-- The slashes of an anchor leave no components. -/
theorem filter_pieces_anchor (anchor : Anchor) (cs : List Char) :
    ((Text.pieces '/' (anchor.text.toList ++ cs)).map String.ofList).filter
        (fun part => part ≠ "" && part ≠ ".") =
      ((Text.pieces '/' cs).map String.ofList).filter (fun part => part ≠ "" && part ≠ ".") := by
  cases anchor with
  | current => rfl
  | root =>
      show ((Text.pieces '/' ('/' :: cs)).map String.ofList).filter _ = _
      rw [Text.pieces_cons_self]
      rfl
  | doubleRoot =>
      show ((Text.pieces '/' ('/' :: '/' :: cs)).map String.ofList).filter _ = _
      rw [Text.pieces_cons_self, Text.pieces_cons_self]
      rfl

/-- A path is read back from its text. -/
theorem ofString_text {p : Path} (h : p.Proper) : ofString p.text = p := by
  obtain ⟨anchor, components⟩ := p
  have hpieces := filter_pieces_intercalate h
  have hhead := head?_intercalate_ne h
  dsimp only at hpieces hhead
  unfold text
  split
  next hempty =>
    obtain ⟨rfl, rfl⟩ : anchor = .current ∧ components = [] := hempty
    decide +kernel
  next =>
    unfold ofString Text.splitAt
    rw [String.toList_append, ofChars_text anchor hhead, filter_pieces_anchor, hpieces]

/-! ## Order -/

/-- A text is read back from its pieces. -/
theorem splitAt_injective {s s' : String} (h : Text.splitAt '/' s = Text.splitAt '/' s') :
    s = s' := by
  have hpieces : Text.pieces '/' s.toList = Text.pieces '/' s'.toList :=
    List.map_injective_iff.mpr (fun _ _ => String.ofList_inj.mp) h
  rw [← String.toList_inj, ← Text.intercalate_pieces '/' s.toList, hpieces,
    Text.intercalate_pieces]

theorem eq_of_order_eq {p q : Path} (hp : p.Proper) (hq : q.Proper) (h : p.order = q.order) :
    p = q := by
  rw [← ofString_text hp, ← ofString_text hq, splitAt_injective h]

theorem Proper.comparable {p q : Path} (hp : p.Proper) (hq : q.Proper) :
    p < q ∨ p = q ∨ q < p := by
  rcases lt_trichotomy p.order q.order with hlt | heq | hgt
  · exact .inl hlt
  · exact .inr (.inl (eq_of_order_eq hp hq heq))
  · exact .inr (.inr hgt)

end Path

end ResourceAudit
