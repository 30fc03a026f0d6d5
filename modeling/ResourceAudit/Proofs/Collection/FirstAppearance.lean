import Mathlib.Data.List.Induction
import Mathlib.Data.List.Sort

/-!
# First appearances

A list without repetitions that names the elements of another list in the order in
which they first appear there. There is only one such list, and removing repetitions
from the left yields it.
-/

namespace ResourceAudit

variable {α : Type} [BEq α]

/-- `ys` names the elements of `xs`, each once, in the order of first appearance. -/
def FirstAppearances (xs ys : List α) : Prop :=
  (∀ y, y ∈ ys ↔ y ∈ xs) ∧ ys.Pairwise fun a b => xs.idxOf a < xs.idxOf b

theorem FirstAppearances.unique {xs ys zs : List α} (hy : FirstAppearances xs ys)
    (hz : FirstAppearances xs zs) : ys = zs := by
  have hirrefl : Std.Irrefl fun a b : α => xs.idxOf a < xs.idxOf b :=
    ⟨fun _ => Nat.lt_irrefl _⟩
  have hantisymm : Std.Antisymm fun a b : α => xs.idxOf a < xs.idxOf b :=
    ⟨fun _ _ hab hba => absurd hab (Nat.lt_asymm hba)⟩
  exact hy.2.eq_of_mem_iff hz.2 fun a => (hy.1 a).trans (hz.1 a).symm

variable [LawfulBEq α]

theorem eraseDups_concat (xs : List α) (x : α) :
    (xs ++ [x]).eraseDups = if x ∈ xs then xs.eraseDups else xs.eraseDups ++ [x] := by
  rw [List.eraseDups_append]
  by_cases h : x ∈ xs <;> simp [List.removeAll, List.eraseDups_cons, h]

/-- Of an appended list, what remains is what did not appear before it. -/
theorem eraseDups_append_eq (xs ys : List α) :
    (xs ++ ys).eraseDups = xs.eraseDups ++ ys.eraseDups.filter (!xs.contains ·) := by
  induction ys using List.reverseRecOn with
  | nil => simp
  | append_singleton ys y ih =>
      rw [← List.append_assoc, eraseDups_concat, eraseDups_concat, ih]
      by_cases hx : y ∈ xs
      · by_cases hy : y ∈ ys <;> simp [hx, hy]
      · by_cases hy : y ∈ ys <;> simp [hx, hy]

theorem firstAppearances_eraseDups (xs : List α) : FirstAppearances xs xs.eraseDups := by
  refine ⟨fun y => List.mem_eraseDups, ?_⟩
  induction xs using List.reverseRecOn with
  | nil => exact List.Pairwise.nil
  | append_singleton xs x ih =>
      -- Appending changes no first position of an element that was there before.
      have hkept : xs.eraseDups.Pairwise
          fun a b => (xs ++ [x]).idxOf a < (xs ++ [x]).idxOf b := by
        refine ih.imp_of_mem ?_
        intro a b ha hb hab
        rw [List.idxOf_append_of_mem (List.mem_eraseDups.mp ha),
          List.idxOf_append_of_mem (List.mem_eraseDups.mp hb)]
        exact hab
      rw [eraseDups_concat]
      split
      · exact hkept
      · rename_i hx
        refine List.pairwise_append.mpr ⟨hkept, List.pairwise_singleton _ _, ?_⟩
        intro a ha b hb
        rw [List.mem_singleton] at hb
        subst hb
        rw [List.idxOf_append_of_mem (List.mem_eraseDups.mp ha),
          List.idxOf_append_of_notMem hx]
        have hlt := List.idxOf_lt_length_of_mem (List.mem_eraseDups.mp ha)
        omega

theorem firstAppearances_iff {xs ys : List α} :
    FirstAppearances xs ys ↔ ys = xs.eraseDups := by
  constructor
  · intro h
    exact h.unique (firstAppearances_eraseDups xs)
  · rintro rfl
    exact firstAppearances_eraseDups xs

end ResourceAudit
