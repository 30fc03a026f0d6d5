/-!
# Ascending lists

A finite set kept as a strictly ascending list. Insertion leaves a list alone
that already holds the element.
-/

namespace ResourceAudit.Ascending

variable {α : Type} [LT α] [DecidableLT α]

def insert (x : α) : List α → List α
  | [] => [x]
  | y :: ys =>
      if x < y then x :: y :: ys
      else if y < x then y :: insert x ys
      else y :: ys

/-- The distinct elements of a list in ascending order. -/
def ofList (xs : List α) : List α :=
  xs.foldr insert []

@[simp]
theorem ofList_nil : ofList ([] : List α) = [] := rfl

@[simp]
theorem ofList_cons (x : α) (xs : List α) : ofList (x :: xs) = insert x (ofList xs) := rfl

theorem mem_of_mem_insert {x z : α} {ys : List α} (h : z ∈ insert x ys) : z = x ∨ z ∈ ys := by
  induction ys with
  | nil => exact Or.inl (List.mem_singleton.mp h)
  | cons y ys ih =>
      rw [insert] at h
      split at h
      · exact List.mem_cons.mp h
      · split at h
        · rcases List.mem_cons.mp h with rfl | h
          · exact Or.inr List.mem_cons_self
          · exact (ih h).imp_right (List.mem_cons_of_mem y)
        · exact Or.inr h

theorem mem_of_mem_ofList {z : α} {xs : List α} (h : z ∈ ofList xs) : z ∈ xs := by
  induction xs with
  | nil => exact h
  | cons x xs ih =>
      rcases mem_of_mem_insert h with rfl | h
      · exact List.mem_cons_self
      · exact List.mem_cons_of_mem x (ih h)

section Order

variable [Trans (· < · : α → α → Prop) (· < · : α → α → Prop) (· < · : α → α → Prop)]

theorem pairwise_insert {x : α} {ys : List α} (h : ys.Pairwise (· < ·)) :
    (insert x ys).Pairwise (· < ·) := by
  induction ys with
  | nil => exact List.pairwise_singleton _ _
  | cons y ys ih =>
      obtain ⟨hy, hys⟩ := List.pairwise_cons.mp h
      rw [insert]
      split
      · rename_i hxy
        refine List.pairwise_cons.mpr ⟨?_, h⟩
        intro z hz
        rcases List.mem_cons.mp hz with rfl | hz
        · exact hxy
        · exact Trans.trans hxy (hy z hz)
      · split
        · rename_i hyx
          refine List.pairwise_cons.mpr ⟨?_, ih hys⟩
          intro z hz
          rcases mem_of_mem_insert hz with rfl | hz
          · exact hyx
          · exact hy z hz
        · exact h

theorem pairwise_ofList (xs : List α) : (ofList xs).Pairwise (· < ·) := by
  induction xs with
  | nil => exact List.Pairwise.nil
  | cons x xs ih => exact pairwise_insert ih

end Order

/-- An element is dropped only if it compares neither way with one of the list. -/
theorem mem_insert_of_comparable {x z : α} {ys : List α}
    (h : ∀ y ∈ ys, x < y ∨ x = y ∨ y < x) : z ∈ insert x ys ↔ z = x ∨ z ∈ ys := by
  refine ⟨mem_of_mem_insert, ?_⟩
  induction ys with
  | nil => exact fun hz => hz.elim (fun hx => List.mem_singleton.mpr hx) fun hz => nomatch hz
  | cons y ys ih =>
      obtain ⟨hy, hys⟩ := List.forall_mem_cons.mp h
      intro hz
      rw [insert]
      split
      · exact List.mem_cons.mpr hz
      · rename_i hxy
        split
        · rcases hz with hz | hz
          · exact List.mem_cons_of_mem y (ih hys (Or.inl hz))
          · rcases List.mem_cons.mp hz with rfl | hz
            · exact List.mem_cons_self
            · exact List.mem_cons_of_mem y (ih hys (Or.inr hz))
        · rename_i hyx
          rcases hz with rfl | hz
          · have heq : z = y := (hy.resolve_left hxy).resolve_right hyx
            rw [heq]
            exact List.mem_cons_self
          · exact hz

theorem mem_ofList_of_comparable {z : α} {xs : List α}
    (h : ∀ x ∈ xs, ∀ y ∈ xs, x < y ∨ x = y ∨ y < x) : z ∈ ofList xs ↔ z ∈ xs := by
  induction xs with
  | nil => rfl
  | cons x xs ih =>
      have hx : ∀ y ∈ ofList xs, x < y ∨ x = y ∨ y < x := fun y hy =>
        h x List.mem_cons_self y (List.mem_cons_of_mem x (mem_of_mem_ofList hy))
      have hxs : ∀ y ∈ xs, ∀ y' ∈ xs, y < y' ∨ y = y' ∨ y' < y := fun y hy y' hy' =>
        h y (List.mem_cons_of_mem x hy) y' (List.mem_cons_of_mem x hy')
      rw [ofList_cons, mem_insert_of_comparable hx, ih hxs, List.mem_cons]

section Trichotomous

variable [Std.Trichotomous (· < · : α → α → Prop)]

theorem comparable (x y : α) : x < y ∨ x = y ∨ y < x := by
  by_cases hxy : x < y
  · exact Or.inl hxy
  · by_cases hyx : y < x
    · exact Or.inr (Or.inr hyx)
    · exact Or.inr (Or.inl (Std.Trichotomous.trichotomous x y hxy hyx))

@[simp]
theorem mem_ofList {z : α} {xs : List α} : z ∈ ofList xs ↔ z ∈ xs :=
  mem_ofList_of_comparable fun x _ y _ => comparable x y

end Trichotomous

end ResourceAudit.Ascending
