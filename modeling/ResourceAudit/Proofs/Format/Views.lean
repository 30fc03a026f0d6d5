import Mathlib.Data.String.Basic
import ResourceAudit.Format.Scan

/-!
# Views of a scan

What a scan says about its items: which indexes they have, which specifiers go
with an index, and what is recorded for an index in use.
-/

namespace ResourceAudit.Format

/-- The pairs of an index and a specifier in the order of the items. -/
def specified (items : List Item) : List (Nat × String) :=
  items.filterMap fun item => item.specifier.map (item.index, ·)

/-- What is recorded for an index with respect to the items: nothing if no item of
the index has a specifier, and otherwise the set of its specifiers. -/
def Records (items : List Item) (index : Nat) : Option (List String) → Prop
  | none => ∀ t, ⟨index, some t⟩ ∉ items
  | some specifiers =>
      specifiers ≠ [] ∧ specifiers.Nodup ∧ ∀ t, t ∈ specifiers ↔ ⟨index, some t⟩ ∈ items

theorem mem_specified {items : List Item} {index : Nat} {t : String} :
    (index, t) ∈ specified items ↔ ⟨index, some t⟩ ∈ items := by
  unfold specified
  rw [List.mem_filterMap]
  constructor
  · rintro ⟨⟨i, specifier⟩, hitem, hpair⟩
    obtain ⟨u, rfl, hu⟩ := Option.map_eq_some_iff.mp hpair
    obtain ⟨rfl, rfl⟩ := Prod.mk.inj hu
    exact hitem
  · intro hitem
    exact ⟨⟨index, some t⟩, hitem, rfl⟩

namespace Scan

variable {s : Scan} {index : Nat} {t : String}

theorem mem_indexes : index ∈ s.indexes ↔ index ∈ s.items.map Item.index :=
  Ascending.mem_ofList

theorem pairwise_indexes (s : Scan) : s.indexes.Pairwise (· < ·) :=
  Ascending.pairwise_ofList _

theorem uses_eq_eraseDups (s : Scan) : s.uses = (specified s.items).eraseDups := rfl

theorem mem_uses : (index, t) ∈ s.uses ↔ ⟨index, some t⟩ ∈ s.items := by
  rw [uses_eq_eraseDups, List.mem_eraseDups, mem_specified]

theorem mem_specifiersOf : t ∈ s.specifiersOf index ↔ ⟨index, some t⟩ ∈ s.items := by
  unfold specifiersOf
  rw [Ascending.mem_ofList, List.mem_map, ← mem_uses]
  constructor
  · rintro ⟨⟨i, u⟩, hu, rfl⟩
    obtain ⟨huse, hindex⟩ := List.mem_filter.mp hu
    rw [beq_iff_eq] at hindex
    rw [← hindex]
    exact huse
  · intro huse
    exact ⟨(index, t), List.mem_filter.mpr ⟨huse, beq_self_eq_true index⟩, rfl⟩

theorem nodup_specifiersOf (s : Scan) (index : Nat) : (s.specifiersOf index).Nodup :=
  (Ascending.pairwise_ofList _).imp fun hlt => ne_of_lt hlt

theorem records_recorded (s : Scan) (index : Nat) :
    Records s.items index (s.recorded index) := by
  unfold recorded
  split
  · rename_i hnil
    intro t ht
    have hmem := mem_specifiersOf.mpr ht
    rw [hnil] at hmem
    exact absurd hmem List.not_mem_nil
  · rename_i hne
    exact ⟨hne, nodup_specifiersOf s index, fun t => mem_specifiersOf⟩

theorem keys_placeholders (s : Scan) : s.placeholders.map Prod.fst = s.indexes := by
  unfold placeholders
  rw [List.map_map]
  exact List.map_id _

theorem records_of_mem_placeholders {recorded : Option (List String)}
    (h : (index, recorded) ∈ s.placeholders) : Records s.items index recorded := by
  obtain ⟨i, -, hi⟩ := List.mem_map.mp h
  obtain ⟨rfl, rfl⟩ := Prod.mk.inj hi
  exact records_recorded s i

/-- Scans with the same items have the same views. -/
theorem views_congr {s' : Scan} (h : s.items = s'.items) :
    s.placeholders = s'.placeholders ∧ s.uses = s'.uses := by
  obtain ⟨items, error⟩ := s
  obtain ⟨items', error'⟩ := s'
  dsimp only at h
  subst h
  exact ⟨rfl, rfl⟩

end Scan

end ResourceAudit.Format
