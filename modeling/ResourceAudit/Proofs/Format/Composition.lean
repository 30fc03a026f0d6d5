import ResourceAudit.Proofs.Collection.Keyed
import ResourceAudit.Proofs.Format.Faults

/-!
# Values that are put together

A value that scans without error leaves nothing open, so what is put after it is scanned as
if it stood alone (`scan_append`). The views of the whole are then those of the two parts: the
indexes of both, the specifiers of both, and the uses of the first followed by what is new in
the second.
-/

namespace ResourceAudit.Format

/-- An error at a distance. -/
def ScanError.after (distance : Nat) (e : ScanError) : ScanError :=
  ⟨e.problem, distance + e.position⟩

/-- All specifiers of two ascending lists. -/
def unite (xs ys : List String) : List String :=
  Ascending.ofList (xs ++ ys)

@[simp]
theorem mem_unite {xs ys : List String} {t : String} : t ∈ unite xs ys ↔ t ∈ xs ∨ t ∈ ys := by
  simp [unite]

theorem pairwise_unite (xs ys : List String) : (unite xs ys).Pairwise (· < ·) :=
  Ascending.pairwise_ofList _

theorem unite_eq_nil_iff {xs ys : List String} : unite xs ys = [] ↔ xs = [] ∧ ys = [] := by
  simp only [List.eq_nil_iff_forall_not_mem, mem_unite, not_or, forall_and]

theorem unite_nil_left {ys : List String} (hys : ys.Pairwise (· < ·)) : unite [] ys = ys := by
  apply (pairwise_unite _ _).eq_of_mem_iff hys
  simp

theorem unite_nil_right {xs : List String} (hxs : xs.Pairwise (· < ·)) : unite xs [] = xs := by
  apply (pairwise_unite _ _).eq_of_mem_iff hxs
  simp

/-! ## The scan of a whole -/

/-- What is left at a fault is an end of the text. -/
theorem length_rest_le_of_scanFrom {cs : List Char} {f : Fault} (h : (scanFrom cs).2 = some f) :
    f.rest.length ≤ cs.length := by
  obtain ⟨xs, rest, rfl, hrest | ⟨g, hbreaks⟩⟩ := exists_reading cs
  · subst hrest
    rw [List.append_nil, scanFrom_render] at h
    cases h
  · rw [scanFrom_render_append, scanFrom_of_breaks hbreaks] at h
    cases h
    obtain ⟨before, -, -, rfl, -⟩ := hbreaks.exists_completion
    simp only [List.length_append]
    omega

/-- After a value that scans, scanning goes on as at the beginning of a value. -/
theorem scan_append {a : String} (ha : (scan a).error = none) (b : String) :
    scan (a ++ b) =
      ⟨(scan a).items ++ (scan b).items, (scan b).error.map (ScanError.after a.length)⟩ := by
  obtain ⟨xs, hxs⟩ := (scan_error_eq_none_iff a).mp ha
  have hitems : (scan a).items = items xs := scan_items_of_render hxs
  have hscan : scanFrom (a ++ b).toList =
      (items xs ++ (scanFrom b.toList).1, (scanFrom b.toList).2) := by
    rw [String.toList_append, ← hxs, scanFrom_render_append]
  have hlength : (a ++ b).toList.length = a.length + b.toList.length := by
    rw [String.toList_append, List.length_append, String.length_toList]
  unfold scan at hitems ⊢
  dsimp only at hitems ⊢
  rw [hscan, hitems, hlength]
  cases hfault : (scanFrom b.toList).2 with
  | none => rfl
  | some f =>
      have hle := length_rest_le_of_scanFrom hfault
      have hshift : a.length + b.toList.length - f.rest.length =
          a.length + (b.toList.length - f.rest.length) := by omega
      simp only [Option.map_some, ScanError.after, hshift]

/-! ## The views of a whole -/

namespace Scan

/-- Looking up an index yields what is recorded for it, if it is in use. -/
theorem get?_placeholders (s : Scan) (index : Nat) :
    Keyed.get? index s.placeholders =
      if index ∈ s.indexes then some (s.recorded index) else none := by
  have hkeys : (Keyed.keys s.placeholders).Nodup := by
    show (s.placeholders.map Prod.fst).Nodup
    rw [keys_placeholders]
    exact s.pairwise_indexes.imp fun hlt => Nat.ne_of_lt hlt
  split
  · rename_i hindex
    rw [← Keyed.mem_iff_get? hkeys]
    exact List.mem_map.mpr ⟨index, hindex, rfl⟩
  · rename_i hindex
    apply Option.eq_none_iff_forall_ne_some.mpr
    intro recorded hget
    apply hindex
    have hmem := (Keyed.mem_iff_get? hkeys).mpr hget
    rw [← keys_placeholders]
    exact List.mem_map.mpr ⟨_, hmem, rfl⟩

theorem recorded_eq (s : Scan) (index : Nat) :
    s.recorded index =
      if s.specifiersOf index = [] then none else some (s.specifiersOf index) := by
  unfold recorded
  split <;> simp_all

theorem recorded_of_notMem {s : Scan} {index : Nat} (h : index ∉ s.indexes) :
    s.recorded index = none := by
  rw [recorded_eq, if_pos]
  apply List.eq_nil_iff_forall_not_mem.mpr
  intro t ht
  exact h (mem_indexes.mpr (List.mem_map_of_mem (mem_specifiersOf.mp ht)))

variable {s t whole : Scan} (h : whole.items = s.items ++ t.items)

include h

theorem mem_indexes_of_append (index : Nat) :
    index ∈ whole.indexes ↔ index ∈ s.indexes ∨ index ∈ t.indexes := by
  simp only [mem_indexes, h, List.map_append, List.mem_append]

theorem specifiersOf_of_append (index : Nat) :
    whole.specifiersOf index = unite (s.specifiersOf index) (t.specifiersOf index) := by
  have hwhole : (whole.specifiersOf index).Pairwise (· < ·) := Ascending.pairwise_ofList _
  apply hwhole.eq_of_mem_iff (pairwise_unite _ _)
  intro u
  simp only [mem_unite, mem_specifiersOf, h, List.mem_append]

/-- A set is recorded as soon as one part records one. -/
theorem recorded_of_append (index : Nat) :
    whole.recorded index = Option.merge unite (s.recorded index) (t.recorded index) := by
  have hs : (s.specifiersOf index).Pairwise (· < ·) := Ascending.pairwise_ofList _
  have ht : (t.specifiersOf index).Pairwise (· < ·) := Ascending.pairwise_ofList _
  simp only [recorded_eq, specifiersOf_of_append h]
  by_cases hnone : s.specifiersOf index = []
  · simp [hnone, unite_nil_left ht]
  · by_cases hnone' : t.specifiersOf index = []
    · simp [hnone, hnone', unite_nil_right hs]
    · simp [hnone, hnone', unite_eq_nil_iff]

theorem placeholders_of_append (index : Nat) :
    Keyed.get? index whole.placeholders =
      Option.merge (Option.merge unite) (Keyed.get? index s.placeholders)
        (Keyed.get? index t.placeholders) := by
  simp only [get?_placeholders, mem_indexes_of_append h, recorded_of_append h]
  by_cases hs : index ∈ s.indexes
  · by_cases ht : index ∈ t.indexes
    · simp [hs, ht]
    · simp [hs, ht, recorded_of_notMem ht]
  · by_cases ht : index ∈ t.indexes
    · simp [hs, ht, recorded_of_notMem hs]
    · simp [hs, ht]

theorem uses_of_append :
    whole.uses = s.uses ++ t.uses.filter (!s.uses.contains ·) := by
  have hspecified : specified whole.items = specified s.items ++ specified t.items := by
    rw [h]
    exact List.filterMap_append
  simp only [uses_eq_eraseDups, hspecified, eraseDups_append_eq, List.contains_eq_mem,
    List.mem_eraseDups]

end Scan

/-- What the scan of a whole has from the scans of its two parts. Of a placeholder that only
one part uses it has what that part records; of one that both use, the specifiers of both. -/
structure Composed (a b : String) : Prop where
  error : (scan (a ++ b)).error = (scan b).error.map (ScanError.after a.length)
  placeholders : ∀ index, Keyed.get? index (scan (a ++ b)).placeholders =
    Option.merge (Option.merge unite) (Keyed.get? index (scan a).placeholders)
      (Keyed.get? index (scan b).placeholders)
  uses : (scan (a ++ b)).uses =
    (scan a).uses ++ (scan b).uses.filter (!(scan a).uses.contains ·)

/-- **Scanning is compositional.** After a value that scans without error, another one is
scanned as by itself: its error is the error of the whole, its placeholders are joined to
those before it, and its uses follow unless they are there already. -/
theorem scan_composed {a : String} (ha : (scan a).error = none) (b : String) :
    Composed a b := by
  have hscan := scan_append ha b
  have hitems : (scan (a ++ b)).items = (scan a).items ++ (scan b).items := by rw [hscan]
  constructor
  · rw [hscan]
  · intro index
    exact Scan.placeholders_of_append hitems index
  · exact Scan.uses_of_append hitems

def bracedFront : String := "\x7d\x7d\x7b0:N2\x7d\x7b1\x7d"

def brokenBack : String := "\x7d\x7d\x7b1:X\x7d\x7b0:N2\x7d\x7b0:D\x7d\x7b"

/-- A doubled brace right after an item, a use that is repeated, and an error at the end. -/
theorem scan_composed_braces :
    (scan bracedFront).error = none ∧ Composed bracedFront brokenBack ∧
      (scan (bracedFront ++ brokenBack)).error = some ⟨.indexExpected, 30⟩ ∧
      (scan (bracedFront ++ brokenBack)).uses = [(0, "N2"), (1, "X"), (0, "D")] := by
  have hfront : (scan bracedFront).error = none := by decide +kernel
  have hcomposed := scan_composed hfront brokenBack
  have hback : (scan brokenBack).error = some ⟨.indexExpected, 19⟩ := by decide +kernel
  refine ⟨hfront, hcomposed, ?_, ?_⟩
  · rw [hcomposed.error, hback]
    decide
  · rw [hcomposed.uses]
    decide +kernel

end ResourceAudit.Format
