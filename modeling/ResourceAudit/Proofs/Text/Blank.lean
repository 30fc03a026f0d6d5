import Mathlib.Data.List.DropRight
import ResourceAudit.Proofs.Text.Run
import ResourceAudit.Text.Blank
import ResourceAudit.Text.Word

/-!
# Blanks and trimmed texts

Trimming a text a second time, or with further blanks in front of it, changes nothing, and
nothing is left exactly of a text of blanks. No blank is a word character, so that a blank ends a
word.
-/

namespace ResourceAudit.Text

theorem dropBlank_cons_of_not_blank {c : Char} (h : isBlank c = false) (cs : List Char) :
    dropBlank (c :: cs) = c :: cs := by
  rw [dropBlank_cons, h]
  exact if_neg Bool.false_ne_true

theorem exists_blank_append (cs : List Char) : ∃ w, allBlank w = true ∧ cs = w ++ dropBlank cs := by
  refine ⟨cs.takeWhile isBlank, ?_, List.takeWhile_append_dropWhile.symm⟩
  rw [allBlank, List.all_eq_true]
  intro c hc
  exact List.mem_takeWhile_imp hc

/-- What is not blank up to some place keeps what follows. -/
theorem dropBlank_append_of_ne_nil {cs : List Char} (h : dropBlank cs ≠ []) (more : List Char) :
    dropBlank (cs ++ more) = dropBlank cs ++ more :=
  (run_append_of_stopped h more).2

theorem allBlank_append {v w : List Char} :
    allBlank (v ++ w) = true ↔ allBlank v = true ∧ allBlank w = true := by
  simp [allBlank]

/-! ## Removing all blanks -/

theorem withoutBlank_append (v w : List Char) :
    withoutBlank (v ++ w) = withoutBlank v ++ withoutBlank w :=
  List.filter_append v w

theorem withoutBlank_cons_of_blank {c : Char} (h : isBlank c = true) (cs : List Char) :
    withoutBlank (c :: cs) = withoutBlank cs :=
  List.filter_cons_of_neg (by simp [h])

theorem withoutBlank_of_allBlank {w : List Char} (h : allBlank w = true) :
    withoutBlank w = [] := by
  rw [withoutBlank, List.filter_eq_nil_iff]
  intro c hc
  simpa using List.all_eq_true.mp h c hc

theorem withoutBlank_of_forall {cs : List Char} (h : ∀ c ∈ cs, isBlank c = false) :
    withoutBlank cs = cs := by
  rw [withoutBlank, List.filter_eq_self]
  intro c hc
  simpa using h c hc

/-! ## Trimming -/

theorem trim_append_of_allBlank {w : List Char} (hw : allBlank w = true) (cs : List Char) :
    trim (w ++ cs) = trim cs := by
  unfold trim
  rw [dropBlank_append_of_allBlank hw]

theorem trim_trim (cs : List Char) : trim (trim cs) = trim cs := by
  -- What is left at the front is the first character that is no blank, unless all are blank.
  have hfront : dropBlank (trim cs) = trim cs := by
    obtain ⟨rest, hrest⟩ := List.rdropWhile_prefix isBlank (dropBlank cs)
    have hdropped : cs.dropWhile isBlank = trim cs ++ rest := hrest.symm
    have hhead := List.head?_dropWhile_not isBlank cs
    rw [hdropped] at hhead
    cases hkept : trim cs with
    | nil => rfl
    | cons c kept =>
        rw [hkept] at hhead
        exact dropBlank_cons_of_not_blank hhead kept
  show dropBlankEnd (dropBlank (trim cs)) = trim cs
  rw [hfront]
  exact List.rdropWhile_idempotent isBlank (dropBlank cs)

theorem trim_eq_nil_iff {cs : List Char} : trim cs = [] ↔ allBlank cs = true := by
  have hend : ∀ xs : List Char, dropBlankEnd xs = [] ↔ ∀ c ∈ xs, isBlank c = true := by
    intro xs
    simp [dropBlankEnd, List.dropWhile_eq_nil_iff]
  rw [trim, hend, allBlank, List.all_eq_true]
  constructor
  · intro h c hc
    obtain ⟨w, hw, hcs⟩ := exists_blank_append cs
    rw [hcs] at hc
    rcases List.mem_append.mp hc with hc | hc
    · exact List.all_eq_true.mp hw c hc
    · exact h c hc
  · intro h c hc
    exact h c ((List.dropWhile_suffix isBlank).subset hc)

/-- Trimming takes characters away and adds none. -/
theorem mem_of_mem_trim {cs : List Char} {c : Char} (h : c ∈ trim cs) : c ∈ cs :=
  (List.dropWhile_suffix isBlank).subset
    ((List.rdropWhile_prefix isBlank (dropBlank cs)).subset h)

/-! ## Blanks and words -/

/-- The code points of the blanks, as ascending ranges. -/
def blankRanges : List (Nat × Nat) :=
  [(0x09, 0x0D), (0x1C, 0x20), (0x85, 0x85), (0xA0, 0xA0), (0x1680, 0x1680), (0x2000, 0x200A),
    (0x2028, 0x2029), (0x202F, 0x202F), (0x205F, 0x205F), (0x3000, 0x3000)]

/-- Whether no range of one list meets a range of the other. -/
def apart (xs ys : List (Nat × Nat)) : Bool :=
  xs.all fun x => ys.all fun y => x.2 < y.1 || y.2 < x.1

theorem not_mem_of_apart {xs ys : List (Nat × Nat)} (h : apart xs ys = true) {x y : Nat × Nat}
    (hx : x ∈ xs) (hy : y ∈ ys) {n : Nat} (hn : x.1 ≤ n ∧ n ≤ x.2) : ¬ (y.1 ≤ n ∧ n ≤ y.2) := by
  have hapart : x.2 < y.1 ∨ y.2 < x.1 := by
    simpa using List.all_eq_true.mp (List.all_eq_true.mp h x hx) y hy
  omega

theorem exists_blankRange {c : Char} (h : isBlank c = true) :
    ∃ r ∈ blankRanges, r.1 ≤ c.toNat ∧ c.toNat ≤ r.2 := by
  simp only [isBlank, Bool.or_eq_true, Bool.and_eq_true, decide_eq_true_eq, beq_iff_eq] at h
  simp only [blankRanges, List.mem_cons, List.not_mem_nil, exists_eq_or_imp, or_false,
    exists_eq_left]
  omega

theorem exists_range_of_inRanges {ranges : List (Nat × Nat)} {n : Nat}
    (h : inRanges ranges n = true) : ∃ r ∈ ranges, r.1 ≤ n ∧ n ≤ r.2 := by
  simpa [inRanges] using h

theorem toNat_between {a b c : Char} (h : c.val ≥ a.val ∧ c.val ≤ b.val) :
    a.toNat ≤ c.toNat ∧ c.toNat ≤ b.toNat :=
  ⟨UInt32.le_iff_toNat_le.mp h.1, UInt32.le_iff_toNat_le.mp h.2⟩

theorem toNat_of_isAlphanum {c : Char} (h : c.isAlphanum = true) :
    '0'.toNat ≤ c.toNat ∧ c.toNat ≤ 'z'.toNat := by
  rcases Bool.or_eq_true_iff.mp h with hletter | hdigit
  · rcases Bool.or_eq_true_iff.mp hletter with hupper | hlower
    · obtain ⟨hlow, hhigh⟩ := toNat_between (of_decide_eq_true hupper)
      exact ⟨Nat.le_trans (by decide) hlow, Nat.le_trans hhigh (by decide)⟩
    · obtain ⟨hlow, hhigh⟩ := Bool.and_eq_true_iff.mp hlower
      obtain ⟨hlow, hhigh⟩ :=
        toNat_between ⟨of_decide_eq_true hlow, of_decide_eq_true hhigh⟩
      exact ⟨Nat.le_trans (by decide) hlow, hhigh⟩
  · obtain ⟨hlow, hhigh⟩ := Bool.and_eq_true_iff.mp hdigit
    obtain ⟨hlow, hhigh⟩ := toNat_between ⟨of_decide_eq_true hlow, of_decide_eq_true hhigh⟩
    exact ⟨hlow, Nat.le_trans hhigh (by decide)⟩

/-- The word characters that are no letters of the tables are ASCII. -/
theorem toNat_of_isAlphanum_or_underscore {c : Char} (h : c.isAlphanum = true ∨ c = '_') :
    0x30 ≤ c.toNat ∧ c.toNat ≤ 0x7A := by
  rcases h with h | rfl
  · exact toNat_of_isAlphanum h
  · decide

/-- No word character is a blank. -/
theorem isBlank_of_isWord {c : Char} (h : isWord c = true) : isBlank c = false := by
  by_contra hblank
  obtain ⟨r, hr, hin⟩ := exists_blankRange (Bool.not_eq_false _ ▸ hblank)
  rw [isWord, Bool.or_eq_true, Bool.or_eq_true, beq_iff_eq] at h
  rcases h with h | h
  · have hascii : apart blankRanges [(0x30, 0x7A)] = true := by decide
    exact not_mem_of_apart hascii hr List.mem_cons_self hin (toNat_of_isAlphanum_or_underscore h)
  · obtain ⟨r', hr', hin'⟩ := exists_range_of_inRanges h
    have htable : apart blankRanges wordRanges = true := by decide +kernel
    exact not_mem_of_apart htable hr hr' hin hin'

/-- A blank ends a word. -/
theorem stops_isWord_of_allBlank {w : List Char} (hw : allBlank w = true) (hne : w ≠ [])
    (rest : List Char) : Stops isWord (w ++ rest) := by
  obtain ⟨c, w, rfl⟩ := List.exists_cons_of_ne_nil hne
  have hc : isBlank c = true := List.all_eq_true.mp hw c List.mem_cons_self
  rw [List.cons_append, stops_cons]
  by_contra hword
  simp [isBlank_of_isWord (Bool.not_eq_false _ ▸ hword)] at hc

/-- Blanks in front do not prolong a word either. -/
theorem Stops.allBlank_append {rest w : List Char} (h : Stops isWord rest)
    (hw : allBlank w = true) : Stops isWord (w ++ rest) := by
  by_cases hne : w = []
  · subst hne
    exact h
  · exact stops_isWord_of_allBlank hw hne rest

end ResourceAudit.Text
