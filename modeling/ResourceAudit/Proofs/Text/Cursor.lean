import Mathlib.Data.List.Infix
import ResourceAudit.Text.Cursor

/-!
# Cursors within a text

A cursor within a text stands before one of its ends, and what it reads is read off that end:
the character under it is the first one, and moving on drops characters from the front.
-/

namespace ResourceAudit.Text.Cursor

/-- The cursor has a text for its source, and a position in it or right after it. -/
structure Within (text : List Char) (c : Cursor) : Prop where
  source : c.source = text
  nonneg : 0 ≤ c.position
  le_length : c.position ≤ text.length

/-- The cursor that stands before an end of a text. -/
def before (text rest : List Char) : Cursor :=
  ⟨text, (text.length : Int) - rest.length⟩

variable {text rest : List Char} {c : Char}

theorem before_self (text : List Char) : before text text = ⟨text, 0⟩ := by
  simp [before]

theorem before_drop {position : Nat} (h : position ≤ text.length) :
    before text (text.drop position) = ⟨text, position⟩ := by
  simp only [before, List.length_drop, mk.injEq, true_and]
  omega

theorem within_before (h : rest <:+ text) : (before text rest).Within text := by
  have hle := h.length_le
  refine ⟨rfl, ?_, ?_⟩ <;> simp only [before] <;> omega

theorem position_before_eq_iff {last : List Char} (h : last <:+ rest) :
    (before text last).position = (before text rest).position ↔ last = rest := by
  constructor
  · intro hposition
    apply h.eq_of_length
    simp only [before] at hposition
    omega
  · rintro rfl
    rfl

theorem atEnd_before_nil (text : List Char) : (before text []).atEnd = true := by
  simp [before, atEnd]

theorem not_atEnd_before_cons (text : List Char) (c : Char) (rest : List Char) :
    ¬ (before text (c :: rest)).atEnd = true := by
  intro hend
  have hle := of_decide_eq_true hend
  simp only [before, List.length_cons] at hle
  omega

theorem charAt_before (h : rest <:+ text) (n : Nat) :
    (before text rest).charAt ((before text rest).position + n) = .ok rest[n]? := by
  obtain ⟨front, rfl⟩ := h
  have hposition : (before (front ++ rest) rest).position = front.length := by
    simp [before]
  unfold charAt
  rw [hposition, if_pos (by omega)]
  have hindex : ((front.length : Int) + n).toNat = front.length + n := by omega
  have hchar : (front ++ rest)[front.length + n]? = rest[n]? := by
    rw [List.getElem?_append_right (Nat.le_add_right _ _), Nat.add_sub_cancel_left]
  rw [hindex]
  exact congrArg Except.ok hchar

theorem peek_before (h : rest <:+ text) (n : Nat) :
    (before text rest).peek n = .ok rest[n]? :=
  charAt_before h n

theorem current_before (h : (c :: rest) <:+ text) :
    (before text (c :: rest)).current = .ok c := by
  have hchar := charAt_before h 0
  rw [Int.natCast_zero, Int.add_zero] at hchar
  unfold current
  rw [if_neg (not_atEnd_before_cons text c rest), hchar]
  rfl

theorem advance_before (h : rest <:+ text) (n : Nat) :
    (before text rest).advance n = before text (rest.drop n) := by
  have hle := h.length_le
  simp only [advance, before, List.length_drop, mk.injEq, true_and]
  omega

/-- Moving on by one character drops the character under the cursor. -/
theorem advance_before_cons (h : (c :: rest) <:+ text) :
    (before text (c :: rest)).advance 1 = before text rest :=
  advance_before h 1

theorem offset_natCast {length n : Nat} (h : n ≤ length) : offset length n = n := by
  unfold offset
  rw [if_neg (by omega)]
  omega

theorem sliceTo_before {run : List Char} (h : (run ++ rest) <:+ text) :
    (before text (run ++ rest)).sliceTo (before text rest).position = run := by
  obtain ⟨front, rfl⟩ := h
  have hstart : (before (front ++ (run ++ rest)) (run ++ rest)).position = front.length := by
    simp [before]
  have hstop : (before (front ++ (run ++ rest)) rest).position = (front ++ run).length := by
    simp [before]
    omega
  have hcut : slice front.length (front ++ run).length (front ++ (run ++ rest)) = run := by
    unfold slice
    rw [offset_natCast (by simp), offset_natCast (by simp), ← List.append_assoc,
      List.take_left, List.drop_left]
  unfold sliceTo
  rw [hstart, hstop]
  exact hcut

end ResourceAudit.Text.Cursor
