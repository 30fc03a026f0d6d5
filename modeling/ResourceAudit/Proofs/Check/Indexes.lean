import Mathlib.Data.Finset.Card
import Mathlib.Order.Bounds.Basic
import ResourceAudit.Proofs.Check.Fit
import ResourceAudit.Proofs.Check.Steps

/-!
# The index check

A value must use exactly the indexes of the declared parameters, `0` to `n - 1`. The check never
compares the two sets: it compares a count, searches for an index beyond the declaration or for
one that is missing, and takes it for granted that one search succeeds. What it finds is
nevertheless settled by the set of used indexes alone (`IndexFault`), and it finds something
exactly if the sets differ (`indexes_checked`).
-/

namespace ResourceAudit

/-! ## Searching an ascending list -/

namespace Ascending

variable {xs : List ℕ} {p : ℕ → Bool} {i : ℕ}

theorem isLeast_of_find? (hxs : xs.Pairwise (· < ·)) (h : xs.find? p = some i) :
    IsLeast {j | j ∈ xs ∧ p j = true} i := by
  obtain ⟨hp, front, back, rfl, hfront⟩ := List.find?_eq_some_iff_append.mp h
  refine ⟨⟨by simp, hp⟩, ?_⟩
  rintro j ⟨hj, hpj⟩
  rcases List.mem_append.mp hj with hj | hj
  · have hnot := hfront j hj
    simp [hpj] at hnot
  · have hback := (List.pairwise_append.mp hxs).2.1
    rcases List.mem_cons.mp hj with rfl | hj
    · exact le_rfl
    · exact ((List.pairwise_cons.mp hback).1 j hj).le

/-- The first element found in an ascending list is the smallest of its kind. -/
theorem find?_eq_some_iff_isLeast (hxs : xs.Pairwise (· < ·)) :
    xs.find? p = some i ↔ IsLeast {j | j ∈ xs ∧ p j = true} i := by
  refine ⟨isLeast_of_find? hxs, fun hi => ?_⟩
  obtain ⟨hmem, hp⟩ := hi.1
  have hfound : (xs.find? p).isSome = true := List.find?_isSome.mpr ⟨i, hmem, hp⟩
  obtain ⟨j, hj⟩ := Option.isSome_iff_exists.mp hfound
  rw [hj, (isLeast_of_find? hxs hj).unique hi]

end Ascending

/-! ## The set of used indexes -/

namespace Format.Scan

variable {s : Scan} {n i : ℕ}

/-- The indexes of the items. -/
def used (s : Scan) : Finset ℕ :=
  (s.items.map Item.index).toFinset

theorem mem_used : i ∈ s.used ↔ i ∈ s.indexes := by
  rw [used, List.mem_toFinset, mem_indexes]

theorem toFinset_indexes (s : Scan) : s.indexes.toFinset = s.used := by
  ext i
  rw [List.mem_toFinset, mem_used]

theorem card_used (s : Scan) : s.used.card = s.count := by
  have hnodup : s.indexes.Nodup := s.pairwise_indexes.imp fun hlt => hlt.ne
  rw [← toFinset_indexes, List.toFinset_card_of_nodup hnodup, count]

theorem count_eq_zero_iff : s.count = 0 ↔ s.used = ∅ := by
  rw [← card_used, Finset.card_eq_zero]

theorem count_ne_zero_iff : s.count ≠ 0 ↔ s.used.Nonempty := by
  rw [Ne, count_eq_zero_iff, Finset.nonempty_iff_ne_empty]

theorem used_eq_range_iff : s.used = Finset.range n ↔ s.indexes = List.range n := by
  rw [Check.indexes_eq_range_iff, Finset.ext_iff]
  simp only [mem_used, Finset.mem_range]

theorem firstOutOfRange_eq_some_iff :
    s.firstOutOfRange n = some i ↔ IsLeast {j | j ∈ s.used ∧ n ≤ j} i := by
  unfold firstOutOfRange
  rw [Ascending.find?_eq_some_iff_isLeast s.pairwise_indexes]
  simp only [mem_used, decide_eq_true_eq]

theorem firstMissing_eq_some_iff :
    s.firstMissing n = some i ↔ IsLeast {j | j < n ∧ j ∉ s.used} i := by
  unfold firstMissing
  rw [Ascending.find?_eq_some_iff_isLeast List.pairwise_lt_range]
  simp [mem_used]

end Format.Scan

/-! ## What the check finds -/

namespace Check

/-- What is wrong with a value that uses a set of indexes where `n` parameters are declared. An
index beyond the declaration is named before one that is missing. -/
inductive IndexFault (name : String) (used : Finset ℕ) (n : ℕ) : Finding → Prop
  | unused (hused : used = ∅) : IndexFault name used n (.formatItemsMissing name)
  | beyond {i : ℕ} (hused : used.Nonempty) (hcount : used.card ≠ n)
      (hleast : IsLeast {j | j ∈ used ∧ n ≤ j} i) :
      IndexFault name used n (.placeholderCountMismatch name i n)
  | missing {i : ℕ} (hused : used.Nonempty) (hcount : used.card ≠ n)
      (hwithin : ∀ j ∈ used, j < n) (hleast : IsLeast {j | j < n ∧ j ∉ used} i) :
      IndexFault name used n (.placeholderCountMismatch name i n)
  | gap {i : ℕ} (hused : used.Nonempty) (hcount : used.card = n)
      (hleast : IsLeast {j | j < n ∧ j ∉ used} i) :
      IndexFault name used n (.placeholderNotUsed name i)

section

variable {name : String} {s : Format.Scan} {n : ℕ}

theorem indexFinding?_unused (hused : s.used = ∅) :
    indexFinding? name s n = some (.formatItemsMissing name) := by
  rw [indexFinding?, if_pos (Format.Scan.count_eq_zero_iff.mpr hused)]

theorem indexFinding?_mismatch (hused : s.used.Nonempty) (hcount : s.used.card ≠ n) :
    indexFinding? name s n =
      (s.firstOutOfRange n <|> s.firstMissing n).map (.placeholderCountMismatch name · n) := by
  rw [s.card_used] at hcount
  rw [indexFinding?, if_neg (Format.Scan.count_ne_zero_iff.mpr hused), if_pos hcount]

theorem indexFinding?_counted (hused : s.used.Nonempty) (hcount : s.used.card = n) :
    indexFinding? name s n = (s.firstMissing n).map (.placeholderNotUsed name ·) := by
  rw [s.card_used] at hcount
  rw [indexFinding?, if_neg (Format.Scan.count_ne_zero_iff.mpr hused),
    if_neg (not_not.mpr hcount)]

/-- The two searches in a row; the second counts only if the first finds nothing. -/
theorem searches_eq_some_iff {i : ℕ} :
    (s.firstOutOfRange n <|> s.firstMissing n) = some i ↔
      IsLeast {j | j ∈ s.used ∧ n ≤ j} i ∨
        (∀ j ∈ s.used, j < n) ∧ IsLeast {j | j < n ∧ j ∉ s.used} i := by
  rw [Option.orElse_eq_orElse, Option.orElse_eq_or, Option.or_eq_some_iff,
    Format.Scan.firstOutOfRange_eq_some_iff, Format.Scan.firstMissing_eq_some_iff,
    firstOutOfRange_eq_none_iff]
  simp only [Format.Scan.mem_used]

theorem indexFinding?_eq_some_iff {f : Finding} :
    indexFinding? name s n = some f ↔ IndexFault name s.used n f := by
  constructor
  · intro h
    rcases s.used.eq_empty_or_nonempty with hused | hused
    · rw [indexFinding?_unused hused] at h
      cases h
      exact .unused hused
    by_cases hcount : s.used.card = n
    · rw [indexFinding?_counted hused hcount] at h
      obtain ⟨i, hi, rfl⟩ := Option.map_eq_some_iff.mp h
      exact .gap hused hcount (Format.Scan.firstMissing_eq_some_iff.mp hi)
    · rw [indexFinding?_mismatch hused hcount] at h
      obtain ⟨i, hi, rfl⟩ := Option.map_eq_some_iff.mp h
      rcases searches_eq_some_iff.mp hi with hleast | ⟨hwithin, hleast⟩
      · exact .beyond hused hcount hleast
      · exact .missing hused hcount hwithin hleast
  · intro h
    cases h with
    | unused hused => exact indexFinding?_unused hused
    | beyond hused hcount hleast =>
        rw [indexFinding?_mismatch hused hcount, searches_eq_some_iff.mpr (.inl hleast)]
        rfl
    | missing hused hcount hwithin hleast =>
        rw [indexFinding?_mismatch hused hcount,
          searches_eq_some_iff.mpr (.inr ⟨hwithin, hleast⟩)]
        rfl
    | gap hused hcount hleast =>
        rw [indexFinding?_counted hused hcount,
          Format.Scan.firstMissing_eq_some_iff.mpr hleast]
        rfl

end

/-! ## The check as a step -/

section

variable {σ : Type} {receive : σ → Diagnostic → σ} {file : Option String} {name : String}
  {s : Format.Scan} {n : ℕ}

theorem run_indexesInto_clean (h : indexFinding? name s n = none) (st : σ) :
    (indexesInto receive file name s n).run st = .ok (true, st) := by
  unfold indexesInto
  rw [h]
  rfl

theorem run_indexesInto_found {f : Finding} (h : indexFinding? name s n = some f) (st : σ) :
    (indexesInto receive file name s n).run st = .ok (false, receive st (f.asError file)) := by
  unfold indexesInto
  rw [h]
  rfl

end

theorem receive_asError (held : Result) (f : Finding) (file : Option String) :
    Sink.receive (.collector held) (f.asError file) =
      .collector ⟨held.errors ++ [f.asError file], held.warnings⟩ := by
  have hwarnings : held.warnings ++ [] = held.warnings := List.append_nil _
  exact congrArg (fun ws => Sink.collector ⟨held.errors ++ [f.asError file], ws⟩) hwarnings

/-- **Exactly the declared indexes.** With at least one declared parameter, and whatever a collector
already holds, the check passes and reports nothing if and only if the value uses exactly the
declared indexes. Otherwise it reports one error, and which one is settled by the set of used
indexes. Where the counts differ there is always an index to be named. -/
theorem indexes_checked (name value : String) (file : Option String) {n : ℕ} (hn : 1 ≤ n)
    (held : Result) :
    let scan := Format.scan value
    let checked := (indexesInto Sink.receive file name scan n).run (.collector held)
    (checked = .ok (true, .collector held) ↔ scan.used = Finset.range n) ∧
    (scan.used ≠ Finset.range n →
      ∃ found, (∀ f, IndexFault name scan.used n f ↔ f = found) ∧
        checked = .ok (false, .collector ⟨held.errors ++ [found.asError file], held.warnings⟩)) ∧
    (scan.count ≠ n → ∃ i, (scan.firstOutOfRange n <|> scan.firstMissing n) = some i) := by
  intro scan checked
  have hclean : indexFinding? name scan n = none ↔ scan.used = Finset.range n := by
    rw [indexFinding?_eq_none_iff, Format.Scan.used_eq_range_iff]
    exact and_iff_right hn
  have hfound : scan.used ≠ Finset.range n →
      ∃ found, (∀ f, IndexFault name scan.used n f ↔ f = found) ∧
        checked =
          .ok (false, .collector ⟨held.errors ++ [found.asError file], held.warnings⟩) := by
    intro hne
    obtain ⟨found, hsome⟩ := Option.ne_none_iff_exists'.mp (mt hclean.mp hne)
    refine ⟨found, ?_, ?_⟩
    · intro f
      rw [← indexFinding?_eq_some_iff, hsome, Option.some.injEq, eq_comm]
    · rw [← receive_asError]
      exact run_indexesInto_found hsome _
  refine ⟨⟨?_, ?_⟩, hfound, exists_index_of_count_ne⟩
  · intro hpassed
    by_contra hne
    obtain ⟨found, -, hreported⟩ := hfound hne
    cases hpassed.symm.trans hreported
  · intro heq
    exact run_indexesInto_clean (hclean.mpr heq) _

/-! ## As many indexes as declared, but not the declared ones -/

def skippingValue : String := "\x7b3:X\x7d of \x7b0\x7d, \x7b3\x7d"

def earlierFindings : Result := ⟨[(Finding.formatItemsMissing "title").asError none], []⟩

theorem indexes_checked_skipping :
    1 ≤ 2 ∧ (Format.scan skippingValue).used = {0, 3} ∧
      (indexesInto Sink.receive none "pages" (Format.scan skippingValue) 2).run
          (.collector earlierFindings) =
        .ok (false, .collector ⟨earlierFindings.errors ++
          [(Finding.placeholderNotUsed "pages" 1).asError none], []⟩) := by
  have hused : (Format.scan skippingValue).used = {0, 3} := by decide +kernel
  have hne : (Format.scan skippingValue).used ≠ Finset.range 2 := by
    rw [hused]
    decide
  obtain ⟨found, hsettled, hreported⟩ :=
    (indexes_checked "pages" skippingValue none (n := 2) (by decide) earlierFindings).2.1 hne
  have hgap : IndexFault "pages" (Format.scan skippingValue).used 2
      (.placeholderNotUsed "pages" 1) := by
    rw [hused]
    refine .gap (by decide) (by decide) ⟨by decide, ?_⟩
    rintro j ⟨hj, hunused⟩
    have hzero : j ≠ 0 := by
      rintro rfl
      simp at hunused
    omega
  have heq := (hsettled _).mp hgap
  subst heq
  exact ⟨by decide, hused, hreported⟩

end Check

end ResourceAudit
