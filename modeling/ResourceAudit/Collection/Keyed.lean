/-!
# Keyed lists

Association lists in the order in which their keys were first written. Writing
a key again replaces its value in place.
-/

namespace ResourceAudit.Keyed

variable {κ ν : Type} [DecidableEq κ]

/-- Replaces the value of a key by one computed from it, or appends the key. -/
def alter (key : κ) (f : Option ν → ν) : List (κ × ν) → List (κ × ν)
  | [] => [(key, f none)]
  | (k, v) :: rest => if k = key then (k, f (some v)) :: rest else (k, v) :: alter key f rest

def put (key : κ) (value : ν) (entries : List (κ × ν)) : List (κ × ν) :=
  alter key (fun _ => value) entries

def get? (key : κ) : List (κ × ν) → Option ν
  | [] => none
  | (k, v) :: rest => if k = key then some v else get? key rest

/-- The keyed list written by a sequence of pairs. -/
def ofPairs (pairs : List (κ × ν)) : List (κ × ν) :=
  pairs.foldl (fun entries (k, v) => put k v entries) []

@[simp]
theorem get?_alter_self (key : κ) (f : Option ν → ν) (entries : List (κ × ν)) :
    get? key (alter key f entries) = some (f (get? key entries)) := by
  induction entries with
  | nil => simp [alter, get?]
  | cons entry rest ih =>
      obtain ⟨k, v⟩ := entry
      by_cases h : k = key <;> simp [alter, get?, h, ih]

theorem get?_alter_of_ne {key other : κ} (h : other ≠ key) (f : Option ν → ν)
    (entries : List (κ × ν)) : get? other (alter key f entries) = get? other entries := by
  induction entries with
  | nil => simp [alter, get?, Ne.symm h]
  | cons entry rest ih =>
      obtain ⟨k, v⟩ := entry
      by_cases hk : k = key
      · subst hk
        simp [alter, get?, Ne.symm h]
      · rw [alter, if_neg hk, get?, get?, ih]

end ResourceAudit.Keyed
