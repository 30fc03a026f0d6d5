import Mathlib.Data.List.Sort
import ResourceAudit.Storage.Path

/-!
# The order of paths

Paths are ordered by the pieces of their texts. The order is strict, but two paths may compare
neither way: a component that holds a slash is not told apart from two. In an ascending list all
paths compare.
-/

namespace ResourceAudit

namespace Path

theorem lt_trans {p q r : Path} (h : p < q) (h' : q < r) : p < r :=
  List.lt_trans (show p.order < q.order from h) (show q.order < r.order from h')

theorem lt_irrefl (p : Path) : ¬ p < p :=
  List.lt_irrefl p.order

instance : Trans (· < · : Path → Path → Prop) (· < · : Path → Path → Prop)
    (· < · : Path → Path → Prop) where
  trans := lt_trans

instance : Std.Irrefl (· < · : Path → Path → Prop) := ⟨lt_irrefl⟩

instance : Std.Antisymm (· < · : Path → Path → Prop) :=
  ⟨fun p _ h h' => absurd (lt_trans h h') (lt_irrefl p)⟩

/-- Ascending lists of the same paths are the same. -/
theorem eq_of_ascending {ps qs : List Path} (hps : ps.Pairwise (· < ·))
    (hqs : qs.Pairwise (· < ·)) (h : ∀ p, p ∈ ps ↔ p ∈ qs) : ps = qs :=
  hps.eq_of_mem_iff hqs h

theorem nodup_of_ascending {ps : List Path} (h : ps.Pairwise (· < ·)) : ps.Nodup := by
  refine h.imp ?_
  rintro p _ hlt rfl
  exact lt_irrefl p hlt

/-- Paths of an ascending list compare one way or the other, though not all paths do. -/
theorem comparable_of_ascending {ps : List Path} (h : ps.Pairwise (· < ·)) :
    ∀ p ∈ ps, ∀ q ∈ ps, p < q ∨ p = q ∨ q < p := by
  induction h with
  | nil => exact nofun
  | @cons p ps hp _ ih =>
      intro q hq r hr
      rcases List.mem_cons.mp hq with hqp | hqs
      · rcases List.mem_cons.mp hr with hrp | hrs
        · exact Or.inr (Or.inl (hqp.trans hrp.symm))
        · exact Or.inl (hqp ▸ hp r hrs)
      · rcases List.mem_cons.mp hr with hrp | hrs
        · exact Or.inr (Or.inr (hrp ▸ hp q hqs))
        · exact ih q hqs r hrs

/-- The last path of an ascending list is the one with none above it. -/
theorem getLast?_eq_some_iff {ps : List Path} (h : ps.Pairwise (· < ·)) {p : Path} :
    ps.getLast? = some p ↔ p ∈ ps ∧ ∀ q ∈ ps, ¬ p < q := by
  constructor
  · intro hlast
    obtain ⟨before, rfl⟩ := List.getLast?_eq_some_iff.mp hlast
    refine ⟨List.mem_append_right _ List.mem_cons_self, ?_⟩
    intro q hq hlt
    rcases List.mem_append.mp hq with hq | hq
    · have hback := (List.pairwise_append.mp h).2.2 q hq p List.mem_cons_self
      exact lt_irrefl p (lt_trans hlt hback)
    · rw [List.mem_singleton.mp hq] at hlt
      exact lt_irrefl p hlt
  · rintro ⟨hp, htop⟩
    obtain ⟨before, after, rfl⟩ := List.append_of_mem hp
    cases after with
    | nil => exact List.getLast?_concat
    | cons q after =>
        have hlt := (List.pairwise_cons.mp (List.pairwise_append.mp h).2.1).1 q List.mem_cons_self
        exact absurd hlt (htop q (by simp))

end Path

end ResourceAudit
