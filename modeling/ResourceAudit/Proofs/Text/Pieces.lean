import Mathlib.Data.List.Basic
import ResourceAudit.Text.Pieces

/-!
# Laws of cutting

No piece holds the separator, and texts without the separator are the pieces of their
join; `isCut_iff` says both at once. The text before a first stop holds no stop, and it is found
again in front of any rest; the same holds of the text after a last stop.
-/

namespace ResourceAudit.Text

variable {separator stop : Char}

/-! ## Cutting at every separator -/

theorem pieces_cons_self (cs : List Char) :
    pieces separator (separator :: cs) = [] :: pieces separator cs := by
  unfold pieces
  rw [cut]
  dsimp only
  rw [if_pos rfl]

theorem pieces_cons_of_ne {c : Char} (h : c ≠ separator) (cs : List Char) :
    pieces separator (c :: cs) = (c :: (cut separator cs).1) :: (cut separator cs).2 := by
  unfold pieces
  rw [cut]
  dsimp only
  rw [if_neg h]

theorem pieces_of_notMem {cs : List Char} (h : separator ∉ cs) : pieces separator cs = [cs] := by
  induction cs with
  | nil => rfl
  | cons c cs ih =>
      obtain ⟨hc, hcs⟩ := List.ne_and_not_mem_of_not_mem_cons h
      obtain ⟨hhead, htail⟩ := List.cons.inj (ih hcs)
      rw [pieces_cons_of_ne (Ne.symm hc), hhead, htail]

theorem pieces_append {cs : List Char} (h : separator ∉ cs) (rest : List Char) :
    pieces separator (cs ++ separator :: rest) = cs :: pieces separator rest := by
  induction cs with
  | nil => exact pieces_cons_self rest
  | cons c cs ih =>
      obtain ⟨hc, hcs⟩ := List.ne_and_not_mem_of_not_mem_cons h
      obtain ⟨hhead, htail⟩ := List.cons.inj (ih hcs)
      rw [List.cons_append, pieces_cons_of_ne (Ne.symm hc), hhead, htail]

/-- A piece is a part of the text, without the separator. -/
theorem mem_of_mem_piece {cs piece : List Char} (h : piece ∈ pieces separator cs) {c : Char}
    (hc : c ∈ piece) : c ∈ cs ∧ c ≠ separator := by
  induction cs generalizing piece with
  | nil =>
      rw [pieces_nil, List.mem_singleton] at h
      subst h
      exact absurd hc List.not_mem_nil
  | cons c' cs ih =>
      by_cases hsep : c' = separator
      · subst hsep
        rw [pieces_cons_self] at h
        rcases List.mem_cons.mp h with rfl | h
        · exact absurd hc List.not_mem_nil
        · exact (ih h hc).imp_left (List.mem_cons_of_mem c')
      · rw [pieces_cons_of_ne hsep] at h
        rcases List.mem_cons.mp h with rfl | h
        · rcases List.mem_cons.mp hc with rfl | hc
          · exact ⟨List.mem_cons_self, hsep⟩
          · exact (ih List.mem_cons_self hc).imp_left (List.mem_cons_of_mem c')
        · exact (ih (List.mem_cons_of_mem _ h) hc).imp_left (List.mem_cons_of_mem c')

/-- Joined by the separator and a filling after it, texts without the separator are pieces
again, all but the first with the filling in front. -/
theorem pieces_intercalate (filling first : List Char) (others : List (List Char))
    (hfilling : separator ∉ filling) (hfirst : separator ∉ first)
    (hothers : ∀ p ∈ others, separator ∉ p) :
    pieces separator (List.intercalate (separator :: filling) (first :: others)) =
      first :: others.map (filling ++ ·) := by
  -- The filling belongs to the piece after it, so the head is general in the induction.
  have hgeneral : ∀ front : List Char, separator ∉ front →
      pieces separator (front ++ List.intercalate (separator :: filling) (first :: others)) =
        (front ++ first) :: others.map (filling ++ ·) := by
    induction others generalizing first with
    | nil =>
        intro front hfront
        rw [List.intercalate_singleton, List.map_nil]
        exact pieces_of_notMem (List.mem_append.not.mpr (not_or.mpr ⟨hfront, hfirst⟩))
    | cons next others ih =>
        intro front hfront
        obtain ⟨hnext, hothers⟩ := List.forall_mem_cons.mp hothers
        have hhead : separator ∉ front ++ first :=
          List.mem_append.not.mpr (not_or.mpr ⟨hfront, hfirst⟩)
        rw [List.intercalate_cons_cons, List.append_assoc, List.cons_append, ← List.append_assoc,
          pieces_append hhead, ih next hnext hothers filling hfilling, List.map_cons]
  exact hgeneral [] List.not_mem_nil

/-- What it means to cut a text at every separator: the pieces hold none, and joined by separators
they are the text. -/
structure IsCut (separator : Char) (cs : List Char) (ps : List (List Char)) : Prop where
  ne_nil : ps ≠ []
  joined : List.intercalate [separator] ps = cs
  separated : ∀ piece ∈ ps, separator ∉ piece

theorem isCut_iff {cs : List Char} {ps : List (List Char)} :
    IsCut separator cs ps ↔ ps = pieces separator cs := by
  constructor
  · rintro ⟨hne, rfl, hseparated⟩
    obtain ⟨first, others, rfl⟩ := List.exists_cons_of_ne_nil hne
    obtain ⟨hfirst, hothers⟩ := List.forall_mem_cons.mp hseparated
    rw [pieces_intercalate [] first others List.not_mem_nil hfirst hothers]
    simp
  · rintro rfl
    refine ⟨pieces_ne_nil separator cs, intercalate_pieces separator cs, ?_⟩
    intro piece hpiece hmem
    exact (mem_of_mem_piece hpiece hmem).2 rfl

/-! ## Cutting at the first stop -/

theorem notMem_of_before? {cs taken : List Char} (h : before? stop cs = some taken) :
    stop ∉ taken := by
  induction cs generalizing taken with
  | nil => cases h
  | cons c cs ih =>
      rw [before?] at h
      by_cases hc : c = stop
      · rw [if_pos hc] at h
        cases h
        exact List.not_mem_nil
      · rw [if_neg hc] at h
        obtain ⟨taken, htaken, rfl⟩ := Option.map_eq_some_iff.mp h
        exact List.not_mem_cons_of_ne_of_not_mem (Ne.symm hc) (ih htaken)

theorem before?_append {cs : List Char} (h : stop ∉ cs) (rest : List Char) :
    before? stop (cs ++ stop :: rest) = some cs := by
  induction cs with
  | nil => exact if_pos rfl
  | cons c cs ih =>
      obtain ⟨hc, hcs⟩ := List.ne_and_not_mem_of_not_mem_cons h
      rw [List.cons_append, before?, if_neg (Ne.symm hc), ih hcs]
      rfl

theorem before?_eq_some_iff {cs taken : List Char} :
    before? stop cs = some taken ↔ stop ∉ taken ∧ ∃ rest, cs = taken ++ stop :: rest := by
  constructor
  · intro h
    refine ⟨notMem_of_before? h, ?_⟩
    induction cs generalizing taken with
    | nil => cases h
    | cons c cs ih =>
        rw [before?] at h
        by_cases hc : c = stop
        · rw [if_pos hc] at h
          cases h
          exact ⟨cs, congrArg (· :: cs) hc⟩
        · rw [if_neg hc] at h
          obtain ⟨taken, htaken, rfl⟩ := Option.map_eq_some_iff.mp h
          obtain ⟨rest, hrest⟩ := ih htaken
          exact ⟨rest, congrArg (c :: ·) hrest⟩
  · rintro ⟨hstop, rest, rfl⟩
    exact before?_append hstop rest

/-! ## Cutting at the last stop -/

theorem aroundLast?_eq_some_iff {cs front tail : List Char} :
    aroundLast? stop cs = some (front, tail) ↔ stop ∉ tail ∧ cs = front ++ stop :: tail := by
  unfold aroundLast?
  rw [Option.map_eq_some_iff]
  constructor
  · rintro ⟨taken, htaken, heq⟩
    obtain ⟨hstop, rest, hreverse⟩ := before?_eq_some_iff.mp htaken
    have hcs : cs = rest.reverse ++ stop :: taken.reverse := by
      rw [← List.reverse_reverse cs, hreverse]
      simp
    have hlength : cs.length - taken.length - 1 = rest.reverse.length := by
      simp only [hcs, List.length_append, List.length_cons, List.length_reverse]
      omega
    rw [hlength, hcs, List.take_left] at heq
    obtain ⟨rfl, rfl⟩ := Prod.mk.inj heq
    exact ⟨by simpa using hstop, hcs⟩
  · rintro ⟨hstop, rfl⟩
    have hreverse : (front ++ stop :: tail).reverse =
        tail.reverse ++ stop :: front.reverse := by simp
    refine ⟨tail.reverse, ?_, ?_⟩
    · rw [hreverse]
      exact before?_append (by simpa using hstop) front.reverse
    · have hlength : (front ++ stop :: tail).length - tail.reverse.length - 1 = front.length := by
        simp only [List.length_append, List.length_cons, List.length_reverse]
        omega
      rw [hlength, List.take_left, List.reverse_reverse]

end ResourceAudit.Text
