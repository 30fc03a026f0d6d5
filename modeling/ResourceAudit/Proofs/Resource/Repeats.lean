import Mathlib.Data.List.Infix
import Mathlib.Data.List.Nodup
import ResourceAudit.Resource.Entry
import ResourceAudit.Resource.Item

/-!
# Repeated names

Marking repeats keeps all entries in their order, and marks none exactly if all names
differ. Among items of different names, a name leads back to its item.
-/

namespace ResourceAudit

namespace Entry

theorem map_fst_markRepeats_go (seen : List String) (es : List Entry) :
    (markRepeats.go seen es).map Prod.fst = es := by
  induction es generalizing seen with
  | nil => rfl
  | cons e es ih => rw [markRepeats.go, List.map_cons, ih]

theorem map_fst_markRepeats (es : List Entry) : (markRepeats es).map Prod.fst = es :=
  map_fst_markRepeats_go [] es

theorem mem_of_mem_markRepeats {es : List Entry} {m : Entry × Bool} (h : m ∈ markRepeats es) :
    m.1 ∈ es := by
  rw [← map_fst_markRepeats es]
  exact List.mem_map_of_mem h

theorem unmarked_go_iff {seen : List String} {es : List Entry} :
    (∀ m ∈ markRepeats.go seen es, m.2 = false) ↔
      (es.map Entry.name).Nodup ∧ ∀ e ∈ es, e.name ∉ seen := by
  induction es generalizing seen with
  | nil => simp [markRepeats.go]
  | cons e es ih =>
      rw [markRepeats.go, List.forall_mem_cons, ih, List.map_cons, List.nodup_cons,
        List.forall_mem_cons]
      simp only [List.contains_eq_mem, decide_eq_false_iff_not, List.mem_cons, List.mem_map,
        not_or, not_exists, not_and]
      constructor
      · rintro ⟨hnew, hnodup, hrest⟩
        exact ⟨⟨fun x hx => (hrest x hx).1, hnodup⟩, hnew, fun x hx => (hrest x hx).2⟩
      · rintro ⟨⟨hdiffer, hnodup⟩, hnew, hrest⟩
        exact ⟨hnew, hnodup, fun x hx => ⟨hdiffer x hx, hrest x hx⟩⟩

/-- Nothing is marked if and only if all names differ. -/
theorem unmarked_iff {es : List Entry} :
    (∀ m ∈ markRepeats es, m.2 = false) ↔ (es.map Entry.name).Nodup := by
  unfold markRepeats
  rw [unmarked_go_iff]
  simp

theorem markRepeats_of_nodup {es : List Entry} (h : (es.map Entry.name).Nodup) :
    markRepeats es = es.map fun e => (e, false) := by
  conv_rhs => rw [← map_fst_markRepeats es, List.map_map]
  symm
  refine (List.map_congr_left ?_).trans (List.map_id _)
  intro m hm
  exact Prod.ext rfl (unmarked_iff.mpr h m hm).symm

/-- Each entry with the entries before it. -/
def withEarlier (es : List Entry) : List (List Entry × Entry) :=
  es.inits.zip es

theorem withEarlier_cons (e : Entry) (es : List Entry) :
    withEarlier (e :: es) = ([], e) :: (withEarlier es).map fun p => (e :: p.1, p.2) := by
  unfold withEarlier
  rw [List.inits_cons, List.zip_cons_cons, List.zip_map_left]
  rfl

theorem markRepeats_go_eq (seen : List String) (es : List Entry) :
    markRepeats.go seen es = (withEarlier es).map fun p =>
      (p.2, decide (p.2.name ∈ seen ∨ p.2.name ∈ p.1.map Entry.name)) := by
  induction es generalizing seen with
  | nil => rfl
  | cons e es ih =>
      rw [markRepeats.go, withEarlier_cons, ih, List.map_cons, List.map_map]
      refine congrArg₂ List.cons ?_ (List.map_congr_left ?_)
      · simp [List.contains_eq_mem]
      · intro p _
        -- The entry moves from the names seen to the entries before.
        simp only [Function.comp_apply, List.map_cons, List.mem_cons]
        exact congrArg (Prod.mk p.2) (decide_eq_decide.mpr (or_assoc.trans or_left_comm))

/-- An entry is marked if one before it has its name. -/
theorem markRepeats_eq (es : List Entry) :
    markRepeats es = (withEarlier es).map fun p =>
      (p.2, decide (p.2.name ∈ p.1.map Entry.name)) := by
  unfold markRepeats
  rw [markRepeats_go_eq]
  simp

section Related

variable {R : Entry → Entry → Prop} {es es' : List Entry}

theorem forall₂_markRepeats_go (hname : ∀ e e', R e e' → e.name = e'.name)
    (h : List.Forall₂ R es es') (seen : List String) :
    List.Forall₂ (fun m m' => R m.1 m'.1 ∧ m.2 = m'.2) (markRepeats.go seen es)
      (markRepeats.go seen es') := by
  induction h generalizing seen with
  | nil => exact .nil
  | @cons e e' es es' he _ ih =>
      rw [markRepeats.go, markRepeats.go, ← hname e e' he]
      exact .cons ⟨he, rfl⟩ (ih (e.name :: seen))

/-- Entries of the same names are marked alike. -/
theorem forall₂_markRepeats (hname : ∀ e e', R e e' → e.name = e'.name)
    (h : List.Forall₂ R es es') :
    List.Forall₂ (fun m m' => R m.1 m'.1 ∧ m.2 = m'.2) (markRepeats es) (markRepeats es') :=
  forall₂_markRepeats_go hname h []

end Related

theorem exists_mark {es : List Entry} {e : Entry} (h : e ∈ es) :
    ∃ repeated, (e, repeated) ∈ markRepeats es := by
  rw [← map_fst_markRepeats es] at h
  obtain ⟨⟨e', repeated⟩, hmem, rfl⟩ := List.mem_map.mp h
  exact ⟨repeated, hmem⟩

end Entry

theorem Item.find?_of_nodup {items : List Item} (h : (items.map Item.name).Nodup)
    {item : Item} (hitem : item ∈ items) : Item.find? item.name items = some item := by
  unfold Item.find?
  cases hfound : items.reverse.find? (·.name == item.name) with
  | none =>
      have hnone := List.find?_eq_none.mp hfound item (List.mem_reverse.mpr hitem)
      exact absurd (beq_self_eq_true item.name) hnone
  | some other =>
      have hname : other.name = item.name := by simpa using List.find?_some hfound
      have hmem : other ∈ items := List.mem_reverse.mp (List.mem_of_find?_eq_some hfound)
      rw [List.inj_on_of_nodup_map h hmem hitem hname]

end ResourceAudit
