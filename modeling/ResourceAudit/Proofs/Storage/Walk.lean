import Mathlib.Data.List.Infix
import ResourceAudit.Proofs.Collection.Attempt
import ResourceAudit.Proofs.Storage.Names
import ResourceAudit.Proofs.Storage.Path

/-!
# Walks to files

In a tree whose names are those a file system can hold, the components that lead from a place
to a file below it are a walk to it. A file that is found below a directory is therefore what
its own path leads to (`resolve_append_of_mem`).
-/

namespace ResourceAudit.FileTree

/-- The names of a tree are names that a file system can hold. -/
def Named (t : FileTree) : Prop :=
  ∀ file ∈ t.files.map Prod.fst, ∀ c ∈ file, Path.IsComponent c ∧ c ≠ ".."

variable {t : FileTree} {place rest : List String} {p q : Path}

theorem leadsTo_iff {file : List String} :
    (place.isPrefixOf file && decide (place.length < file.length)) = true ↔
      ∃ rest, rest ≠ [] ∧ place ++ rest = file := by
  rw [Bool.and_eq_true, List.isPrefixOf_iff_prefix, decide_eq_true_eq]
  constructor
  · rintro ⟨⟨rest, rfl⟩, hlength⟩
    refine ⟨rest, ?_, rfl⟩
    rintro rfl
    rw [List.append_nil] at hlength
    exact Nat.lt_irrefl _ hlength
  · rintro ⟨rest, hne, rfl⟩
    refine ⟨List.prefix_append place rest, ?_⟩
    rw [List.length_append]
    exact Nat.lt_add_of_pos_right (List.length_pos_of_ne_nil hne)

theorem mem_below_iff :
    rest ∈ t.below place ↔ rest ≠ [] ∧ place ++ rest ∈ t.files.map Prod.fst := by
  unfold below
  rw [List.mem_filterMap]
  constructor
  · rintro ⟨file, hfile, hrest⟩
    split at hrest
    next hlonger =>
      obtain ⟨rest, hne, rfl⟩ := leadsTo_iff.mp hlonger
      cases hrest
      rw [List.drop_left]
      exact ⟨hne, hfile⟩
    next => cases hrest
  · rintro ⟨hne, hfile⟩
    refine ⟨place ++ rest, hfile, ?_⟩
    rw [if_pos (leadsTo_iff.mpr ⟨rest, hne, rfl⟩), List.drop_left]

theorem mem_filesBelow_iff (hplace : t.resolve p = .ok place) :
    q ∈ t.filesBelow p ↔
      ∃ rest, q = p.append rest ∧ rest ≠ [] ∧ place ++ rest ∈ t.files.map Prod.fst := by
  unfold filesBelow
  rw [hplace]
  dsimp only
  rw [List.mem_map]
  constructor
  · rintro ⟨rest, hrest, rfl⟩
    exact ⟨rest, rfl, mem_below_iff.mp hrest⟩
  · rintro ⟨rest, rfl, hrest⟩
    exact ⟨rest, mem_below_iff.mpr hrest, rfl⟩

/-- What leads to a file is a directory. -/
theorem hasDirectory_of_mem {c : String}
    (h : place ++ c :: rest ∈ t.files.map Prod.fst) : t.hasDirectory place = true := by
  have hany : (t.files.map Prod.fst).any (fun file =>
      place.isPrefixOf file && decide (place.length < file.length)) = true :=
    List.any_eq_true.mpr ⟨_, h, leadsTo_iff.mpr ⟨c :: rest, List.cons_ne_nil c rest, rfl⟩⟩
  unfold hasDirectory
  rw [any_files_eq t fun file => place.isPrefixOf file && place.length < file.length, hany,
    Bool.or_true]

/-- The components that lead from a place to a file are a walk to it. -/
theorem walk_to_file (hnamed : t.Named) (h : place ++ rest ∈ t.files.map Prod.fst) :
    t.walk place rest = .ok (place ++ rest) := by
  induction rest generalizing place with
  | nil => rw [walk, List.append_nil]
  | cons c rest ih =>
      have hstep : place ++ c :: rest = (place ++ [c]) ++ rest := by simp
      have hc := (hnamed _ h c (by simp)).2
      rw [walk, if_pos (hasDirectory_of_mem h), if_neg hc, hstep]
      exact ih (hstep ▸ h)

theorem walk_append (t : FileTree) (place xs ys : List String) :
    t.walk place (xs ++ ys) = t.walk place xs >>= fun reached => t.walk reached ys := by
  induction xs generalizing place with
  | nil => rfl
  | cons c xs ih =>
      rw [List.cons_append, walk, walk]
      split
      · exact ih _
      · split <;> rfl

theorem resolve_append (hplace : t.resolve p = .ok place) (rest : List String) :
    t.resolve (p.append rest) = t.walk place rest := by
  unfold resolve at hplace ⊢
  show t.walk _ (p.components ++ rest) = _
  rw [walk_append]
  show t.walk (if p.anchor = .current then t.current else []) p.components >>= _ = _
  rw [hplace]
  rfl

/-- A file that is found below a directory is what its path leads to. -/
theorem resolve_append_of_mem (hnamed : t.Named) (hplace : t.resolve p = .ok place)
    (hfile : place ++ rest ∈ t.files.map Prod.fst) :
    t.resolve (p.append rest) = .ok (place ++ rest) := by
  rw [resolve_append hplace]
  exact walk_to_file hnamed hfile

end ResourceAudit.FileTree
