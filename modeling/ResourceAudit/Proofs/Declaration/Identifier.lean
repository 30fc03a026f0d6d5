import ResourceAudit.Declaration.Parameter
import ResourceAudit.Proofs.Text.Blank

/-!
# Identifiers and dotted names

An identifier is read as far as its word characters go. A dotted name may be written with blanks
around its dots (`Spaced`), and is kept without them (`Dotted`). The reader of dotted names takes
exactly the spaced ones, up to where they can no longer go on (`readDotted_spaced`,
`exists_spaced_of_readDotted`).
-/

namespace ResourceAudit

open Text (isWord isBlank dropBlank allBlank withoutBlank Stops)

/-! ## Identifiers -/

namespace Identifier

inductive Valid : List Char → Prop
  | mk (c : Char) (run : List Char) (hstart : isStart c = true)
      (hrun : ∀ x ∈ run, isWord x = true) : Valid (c :: run)

theorem isBlank_of_isStart {c : Char} (h : isStart c = true) : isBlank c = false := by
  simp only [isStart, Bool.or_eq_true, beq_iff_eq, Bool.and_eq_true] at h
  rcases h with rfl | ⟨hword, -⟩
  · decide
  · exact Text.isBlank_of_isWord hword

theorem read_eq_some_iff {cs name rest : List Char} :
    read cs = some (name, rest) ↔ Valid name ∧ Stops isWord rest ∧ cs = name ++ rest := by
  constructor
  · intro h
    cases cs with
    | nil => cases h
    | cons c cs =>
        rw [read] at h
        by_cases hstart : isStart c = true
        · rw [if_pos hstart] at h
          cases h
          refine ⟨.mk c _ hstart fun x hx => List.mem_takeWhile_imp hx, ?_, ?_⟩
          · exact List.takeWhile_eq_nil_iff.mpr fun hpos => List.dropWhile_get_zero_not _ _ hpos
          · rw [List.cons_append, List.takeWhile_append_dropWhile]
        · rw [if_neg hstart] at h
          cases h
  · rintro ⟨⟨c, run, hstart, hrun⟩, hrest, rfl⟩
    rw [List.cons_append, read, if_pos hstart, Text.takeWhile_run hrun hrest,
      Text.dropWhile_run hrun hrest]

namespace Valid

variable {name : List Char}

/-- No blank is skipped in front of an identifier. -/
theorem dropBlank_append (h : Valid name) (rest : List Char) :
    dropBlank (name ++ rest) = name ++ rest := by
  obtain ⟨c, run, hstart, -⟩ := h
  exact Text.dropBlank_cons_of_not_blank (isBlank_of_isStart hstart) (run ++ rest)

theorem exists_not_blank (h : Valid name) : ∃ c ∈ name, isBlank c = false := by
  obtain ⟨c, run, hstart, -⟩ := h
  exact ⟨c, List.mem_cons_self, isBlank_of_isStart hstart⟩

theorem mem (h : Valid name) {c : Char} (hc : c ∈ name) : c = '@' ∨ isWord c = true := by
  obtain ⟨c', run, hstart, hrun⟩ := h
  rcases List.mem_cons.mp hc with rfl | hc
  · simp only [isStart, Bool.or_eq_true, beq_iff_eq, Bool.and_eq_true] at hstart
    exact hstart.imp_right And.left
  · exact Or.inr (hrun c hc)

end Valid

end Identifier

/-! ## Dotted names -/

namespace Parameter

/-- Identifiers joined by dots, as they may be written: with blanks around the dots. -/
inductive Spaced : List Char → Prop
  | single {name : List Char} (hname : Identifier.Valid name) : Spaced name
  | dot {head left right tail : List Char} (hhead : Identifier.Valid head)
      (hleft : allBlank left = true) (hright : allBlank right = true) (htail : Spaced tail) :
      Spaced (head ++ (left ++ '.' :: (right ++ tail)))

/-- Identifiers joined by dots. -/
inductive Dotted : List Char → Prop
  | single {name : List Char} (hname : Identifier.Valid name) : Dotted name
  | dot {head tail : List Char} (hhead : Identifier.Valid head) (htail : Dotted tail) :
      Dotted (head ++ '.' :: tail)

namespace Dotted

variable {type : List Char}

theorem spaced (h : Dotted type) : Spaced type := by
  induction h with
  | single hname => exact .single hname
  | dot hhead _ ih => exact @Spaced.dot _ [] [] _ hhead rfl rfl ih

theorem mem (h : Dotted type) {c : Char} (hc : c ∈ type) :
    c = '.' ∨ c = '@' ∨ isWord c = true := by
  induction h with
  | single hname => exact Or.inr (hname.mem hc)
  | dot hhead _ ih =>
      rcases List.mem_append.mp hc with hc | hc
      · exact Or.inr (hhead.mem hc)
      · rcases List.mem_cons.mp hc with rfl | hc
        · exact Or.inl rfl
        · exact ih hc

theorem withoutBlank_eq (h : Dotted type) : withoutBlank type = type := by
  apply Text.withoutBlank_of_forall
  intro c hc
  rcases h.mem hc with rfl | rfl | hword
  · decide
  · decide
  · exact Text.isBlank_of_isWord hword

end Dotted

namespace Spaced

variable {written : List Char}

theorem dropBlank_append (h : Spaced written) (rest : List Char) :
    dropBlank (written ++ rest) = written ++ rest := by
  cases h with
  | single hname => exact hname.dropBlank_append rest
  | dot hhead =>
      rw [List.append_assoc]
      exact hhead.dropBlank_append _

theorem withoutBlank_dot {head left right tail : List Char} (hhead : Identifier.Valid head)
    (hleft : allBlank left = true) (hright : allBlank right = true) :
    withoutBlank (head ++ (left ++ '.' :: (right ++ tail))) = head ++ '.' :: withoutBlank tail := by
  have hkept : withoutBlank head = head := (Dotted.single hhead).withoutBlank_eq
  have hdot : withoutBlank ('.' :: (right ++ tail)) = '.' :: withoutBlank (right ++ tail) := rfl
  rw [Text.withoutBlank_append, Text.withoutBlank_append, hdot, Text.withoutBlank_append, hkept,
    Text.withoutBlank_of_allBlank hleft, Text.withoutBlank_of_allBlank hright]
  rfl

/-- Without its blanks a dotted name is a dotted name still. -/
theorem dotted (h : Spaced written) : Dotted (withoutBlank written) := by
  induction h with
  | single hname =>
      have hdotted := Dotted.single hname
      rwa [hdotted.withoutBlank_eq]
  | dot hhead hleft hright _ ih =>
      rw [withoutBlank_dot hhead hleft hright]
      exact .dot hhead ih

end Spaced

section ReadDotted

variable {cs head rest after : List Char}

theorem readDotted_dot (hread : Identifier.read cs = some (head, rest))
    (hdot : dropBlank rest = '.' :: after) :
    readDotted cs = (readDotted (dropBlank after)).map fun (tail, rest) =>
      (head ++ '.' :: tail, rest) := by
  rw [readDotted]
  split
  · rename_i hnone
    cases hread.symm.trans hnone
  · rename_i hsome
    cases hread.symm.trans hsome
    split
    · rename_i hdot'
      cases hdot.symm.trans hdot'
      rfl
    · rename_i hend
      exact absurd hdot (hend _)

theorem readDotted_end (hread : Identifier.read cs = some (head, rest))
    (hend : ∀ after, dropBlank rest ≠ '.' :: after) : readDotted cs = some (head, rest) := by
  rw [readDotted]
  split
  · rename_i hnone
    cases hread.symm.trans hnone
  · rename_i hsome
    cases hread.symm.trans hsome
    split
    · rename_i hdot
      exact absurd hdot (hend _)
    · rfl

end ReadDotted

/-- What the reader takes is a dotted name with its blanks, and what it keeps is the name without
them. -/
theorem exists_spaced_of_readDotted {cs type rest : List Char}
    (h : readDotted cs = some (type, rest)) :
    ∃ written, Spaced written ∧ withoutBlank written = type ∧ cs = written ++ rest := by
  fun_induction readDotted cs generalizing type rest with
  | case1 => cases h
  | case2 cs head rest' hread after hdot ih =>
      obtain ⟨⟨tail, rest''⟩, htail, hpair⟩ := Option.map_eq_some_iff.mp h
      cases hpair
      obtain ⟨hhead, -, rfl⟩ := Identifier.read_eq_some_iff.mp hread
      obtain ⟨written, hspaced, rfl, hafter⟩ := ih htail
      obtain ⟨left, hleft, hrest⟩ := Text.exists_blank_append rest'
      obtain ⟨right, hright, hright'⟩ := Text.exists_blank_append after
      refine ⟨head ++ (left ++ '.' :: (right ++ written)), .dot hhead hleft hright hspaced,
        Spaced.withoutBlank_dot hhead hleft hright, ?_⟩
      rw [hrest, hdot, hright', hafter]
      simp
  | case3 cs head rest' hread hend =>
      cases h
      obtain ⟨hname, -, hcs⟩ := Identifier.read_eq_some_iff.mp hread
      exact ⟨head, .single hname, (Dotted.single hname).withoutBlank_eq, hcs⟩

/-- A dotted name is read up to where it can no longer go on. -/
theorem readDotted_spaced {written rest : List Char} (h : Spaced written)
    (hrest : Stops isWord rest) (hend : ∀ after, dropBlank rest ≠ '.' :: after) :
    readDotted (written ++ rest) = some (withoutBlank written, rest) := by
  induction h with
  | single hname =>
      rw [(Dotted.single hname).withoutBlank_eq]
      exact readDotted_end (Identifier.read_eq_some_iff.mpr ⟨hname, hrest, rfl⟩) hend
  | @dot head left right tail hhead hleft hright htail ih =>
      have hdot : dropBlank (left ++ '.' :: (right ++ tail) ++ rest) =
          '.' :: (right ++ (tail ++ rest)) := by
        rw [List.append_assoc, Text.dropBlank_append_of_allBlank hleft, List.cons_append,
          Text.dropBlank_cons_of_not_blank (by decide), List.append_assoc]
      have hstops : Stops isWord (left ++ '.' :: (right ++ tail) ++ rest) := by
        rw [List.append_assoc]
        exact Text.Stops.allBlank_append (Text.stops_cons.mpr (by decide +kernel)) hleft
      have hread : Identifier.read (head ++ (left ++ '.' :: (right ++ tail)) ++ rest) =
          some (head, left ++ '.' :: (right ++ tail) ++ rest) :=
        Identifier.read_eq_some_iff.mpr ⟨hhead, hstops, List.append_assoc _ _ _⟩
      rw [readDotted_dot hread hdot, Text.dropBlank_append_of_allBlank hright,
        htail.dropBlank_append, ih, Spaced.withoutBlank_dot hhead hleft hright]
      rfl

end Parameter

end ResourceAudit
