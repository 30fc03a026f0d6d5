import Mathlib.Data.List.Induction
import Mathlib.Data.List.Nodup
import ResourceAudit.Collection.Keyed

/-!
# What a keyed list holds

No key occurs twice in a keyed list that was built by writing, so its entries are what
looking up its keys yields (`mem_iff_get?`). A key that was written several times has the
value that was written last, or all of them if each writing appends.
-/

namespace ResourceAudit.Keyed

variable {κ ν α : Type} [DecidableEq κ]

def keys (entries : List (κ × ν)) : List κ :=
  entries.map Prod.fst

theorem keys_alter (key : κ) (f : Option ν → ν) (entries : List (κ × ν)) :
    keys (alter key f entries) =
      if key ∈ keys entries then keys entries else keys entries ++ [key] := by
  induction entries with
  | nil => rfl
  | cons entry rest ih =>
      obtain ⟨k, v⟩ := entry
      rw [alter]
      by_cases hk : k = key
      · subst hk
        have hmem : k ∈ keys ((k, v) :: rest) := List.mem_cons_self
        rw [if_pos rfl, if_pos hmem]
        rfl
      · rw [if_neg hk]
        show k :: keys (alter key f rest) = _
        have hmem : key ∈ keys ((k, v) :: rest) ↔ key ∈ keys rest :=
          List.mem_cons.trans (or_iff_right (Ne.symm hk))
        rw [ih]
        by_cases hrest : key ∈ keys rest
        · rw [if_pos hrest, if_pos (hmem.mpr hrest)]
          rfl
        · rw [if_neg hrest, if_neg (hrest ∘ hmem.mp)]
          rfl

theorem nodup_keys_alter {key : κ} {f : Option ν → ν} {entries : List (κ × ν)}
    (h : (keys entries).Nodup) : (keys (alter key f entries)).Nodup := by
  rw [keys_alter]
  by_cases hkey : key ∈ keys entries
  · rw [if_pos hkey]
    exact h
  · rw [if_neg hkey]
    exact List.nodup_append.mpr
      ⟨h, List.nodup_singleton key, fun k hk k' hk' heq =>
        hkey (List.mem_singleton.mp hk' ▸ heq ▸ hk)⟩

/-- Where no key is repeated, the entries are the values of the keys. -/
theorem mem_iff_get? {entries : List (κ × ν)} (h : (keys entries).Nodup) {key : κ} {value : ν} :
    (key, value) ∈ entries ↔ get? key entries = some value := by
  induction entries with
  | nil => exact ⟨nofun, nofun⟩
  | cons entry rest ih =>
      obtain ⟨k, v⟩ := entry
      obtain ⟨hk, hrest⟩ := List.nodup_cons.mp h
      rw [get?, List.mem_cons]
      by_cases hkey : k = key
      · subst hkey
        have hnot : (k, value) ∉ rest := fun hmem => hk (List.mem_map.mpr ⟨_, hmem, rfl⟩)
        rw [if_pos rfl]
        constructor
        · rintro (heq | hmem)
          · cases heq
            rfl
          · exact absurd hmem hnot
        · intro heq
          cases heq
          exact Or.inl rfl
      · rw [if_neg hkey, ← ih hrest]
        constructor
        · rintro (heq | hmem)
          · cases heq
            exact absurd rfl hkey
          · exact hmem
        · exact Or.inr

/-! ## Writing elements under their keys -/

/-- The last element written under a key stands. -/
def index (key : α → κ) (xs : List α) : List (κ × α) :=
  ofPairs (xs.map fun x => (key x, x))

/-- All elements written under a key stand, in order. -/
def gather (key : α → κ) (xs : List α) : List (κ × List α) :=
  xs.foldl (fun found x => alter (key x) (fun others => others.getD [] ++ [x]) found) []

section Written

variable (key : α → κ) (xs : List α) (x : α)

theorem index_concat : index key (xs ++ [x]) = put (key x) x (index key xs) := by
  unfold index ofPairs
  rw [List.map_append, List.foldl_append]
  rfl

theorem gather_concat :
    gather key (xs ++ [x]) =
      alter (key x) (fun others => others.getD [] ++ [x]) (gather key xs) := by
  unfold gather
  rw [List.foldl_append]
  rfl

theorem nodup_keys_index : (keys (index key xs)).Nodup := by
  induction xs using List.reverseRecOn with
  | nil => exact List.nodup_nil
  | append_singleton xs x ih =>
      rw [index_concat]
      exact nodup_keys_alter ih

theorem nodup_keys_gather : (keys (gather key xs)).Nodup := by
  induction xs using List.reverseRecOn with
  | nil => exact List.nodup_nil
  | append_singleton xs x ih =>
      rw [gather_concat]
      exact nodup_keys_alter ih

/-- The elements of a key. -/
def written (k : κ) : List α :=
  xs.filter fun x => key x = k

theorem written_concat_self : written key (xs ++ [x]) (key x) = written key xs (key x) ++ [x] := by
  simp [written]

theorem written_concat_of_ne {k : κ} (h : k ≠ key x) :
    written key (xs ++ [x]) k = written key xs k := by
  simp [written, Ne.symm h]

theorem get?_index (k : κ) : get? k (index key xs) = (written key xs k).getLast? := by
  -- The induction is on the last element, because the last writing decides.
  induction xs using List.reverseRecOn with
  | nil => rfl
  | append_singleton xs x ih =>
      rw [index_concat, put]
      by_cases hk : k = key x
      · subst hk
        rw [get?_alter_self, written_concat_self, List.getLast?_concat]
      · rw [get?_alter_of_ne hk, ih, written_concat_of_ne key xs x hk]

theorem get?_gather (k : κ) :
    get? k (gather key xs) =
      if written key xs k = [] then none else some (written key xs k) := by
  induction xs using List.reverseRecOn with
  | nil => rfl
  | append_singleton xs x ih =>
      rw [gather_concat]
      by_cases hk : k = key x
      · subst hk
        have hne : written key xs (key x) ++ [x] ≠ [] := by simp
        rw [get?_alter_self, ih, written_concat_self, if_neg hne]
        by_cases hnil : written key xs (key x) = []
        · rw [if_pos hnil, hnil]
          rfl
        · rw [if_neg hnil]
          rfl
      · rw [get?_alter_of_ne hk, ih, written_concat_of_ne key xs x hk]

theorem getD_get?_gather (k : κ) : (get? k (gather key xs)).getD [] = written key xs k := by
  rw [get?_gather]
  split
  · rename_i hnil
    exact hnil.symm
  · rfl

end Written

theorem mem_written {key : α → κ} {xs : List α} {k : κ} {x : α} :
    x ∈ written key xs k ↔ x ∈ xs ∧ key x = k := by
  rw [written, List.mem_filter, decide_eq_true_eq]

end ResourceAudit.Keyed
