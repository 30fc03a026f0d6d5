import ResourceAudit.Proofs.Format.Faults
import ResourceAudit.Proofs.Format.Walk

/-!
# Reading numbers below a bound

A number is read digit by digit, and reading ends early once the value has reached the bound.
The outcome is nevertheless settled by the whole run of digits: its value if that lies below the
bound, with nothing of the run left unread, and no number otherwise (`yields_readNumber_at`).
Nothing larger is ever computed than the bound and one more digit make.
-/

namespace ResourceAudit.Text.Decimal

variable {bound n : Nat} {c : Char}

theorem digitValue_le_nine (h : c.isDigit = true) : digitValue c ≤ 9 := by
  have hle : c.toNat ≤ '9'.toNat := by
    simp only [Char.isDigit, Bool.and_eq_true, decide_eq_true_eq] at h
    exact h.2
  have hnine : '9'.toNat = '0'.toNat + 9 := rfl
  unfold digitValue
  omega

theorem accumulate_cons_of_lt (h : n < bound) (c : Char) (digits : List Char) :
    accumulate bound n (c :: digits) = accumulate bound (10 * n + digitValue c) digits := by
  unfold accumulate
  rw [List.foldl_cons, if_pos h]

/-- Accumulating from nothing ends below the bound exactly if the number lies there. -/
theorem accumulate_zero_lt_iff (digits : List Char) :
    accumulate bound 0 digits < bound ↔ value digits < bound := by
  constructor
  · intro h
    rw [value, ((accumulate_lt_iff bound 0 digits _).mp ⟨rfl, h⟩).1]
    exact h
  · intro h
    rw [((accumulate_lt_iff bound 0 digits _).mpr ⟨rfl, h⟩).1]
    exact h

theorem accumulate_zero_eq {digits : List Char} (h : value digits < bound) :
    accumulate bound 0 digits = value digits :=
  ((accumulate_lt_iff bound 0 digits _).mpr ⟨rfl, h⟩).1

end ResourceAudit.Text.Decimal

namespace ResourceAudit.Format.Walk

open Text (Cursor Stops)
open Text.Cursor (before)
open Text.Decimal (accumulate digitValue value)

variable {text rest last : List Char} {n : Nat}

/-- Where reading digits ends that began before a text with a value so far. -/
structure Ends (n : Nat) (rest last : List Char) : Prop where
  suffix : last <:+ rest
  whole : accumulate numberBound n (rest.takeWhile Char.isDigit) < numberBound →
    last = rest.dropWhile Char.isDigit
  unread : last = rest ↔ rest.takeWhile Char.isDigit = [] ∨ numberBound ≤ n

namespace Ends

theorem at_nondigit (h : rest.takeWhile Char.isDigit = []) : Ends n rest rest := by
  refine ⟨List.suffix_rfl, ?_, ?_⟩
  · intro _
    have hsplit := List.takeWhile_append_dropWhile (p := Char.isDigit) (l := rest)
    rw [h] at hsplit
    exact hsplit.symm
  · simp [h]

theorem at_bound (h : numberBound ≤ n) : Ends n rest rest := by
  refine ⟨List.suffix_rfl, ?_, ?_⟩
  · intro hlt
    rw [Text.Decimal.accumulate_of_le h] at hlt
    omega
  · simp [h]

theorem digit {c : Char} (hc : c.isDigit = true) (hn : n < numberBound)
    (h : Ends (10 * n + digitValue c) rest last) : Ends n (c :: rest) last := by
  refine ⟨h.suffix.trans (List.suffix_cons c rest), ?_, ?_⟩
  · rw [List.takeWhile_cons_of_pos hc, Text.Decimal.accumulate_cons_of_lt hn,
      List.dropWhile_cons_of_pos hc]
    exact h.whole
  · have hlength := h.suffix.length_le
    constructor
    · rintro rfl
      rw [List.length_cons] at hlength
      omega
    · rw [List.takeWhile_cons_of_pos hc]
      rintro (hnil | hle)
      · cases hnil
      · omega

end Ends

/-- One digit more makes a value below the bound at most ten times as large. -/
theorem next_value_lt {c : Char} (hc : c.isDigit = true) (hn : n < numberBound) :
    10 * n + digitValue c < 10000000 := by
  have hdigit := Text.Decimal.digitValue_le_nine hc
  unfold numberBound at hn
  omega

theorem yields_readDigits_end {c : Cursor} (hend : c.atEnd = true) (hn : n < 10000000) :
    Yields text (readDigits n c) (n, c) := by
  rw [readDigits]
  apply (yields_note (.reached hn)).bind
  rw [dif_pos hend]
  exact yields_pure _

/-- The loop stays where it is if there is no digit, or none is wanted. -/
theorem yields_readDigits_stay {c : Char} (h : (c :: rest) <:+ text) (hn : n < 10000000)
    (hstay : ¬ (c.isDigit = true ∧ n < numberBound)) :
    Yields text (readDigits n (before text (c :: rest))) (n, before text (c :: rest)) := by
  rw [readDigits]
  apply (yields_note (.reached hn)).bind
  rw [dif_neg (Text.Cursor.not_atEnd_before_cons text c rest)]
  apply (yields_current h).bind
  rw [if_neg hstay]
  exact yields_pure _

theorem yields_readDigits_next {c : Char} {a : Nat × Cursor} (h : (c :: rest) <:+ text)
    (hc : c.isDigit = true) (hn : n < numberBound)
    (hloop : Yields text (readDigits (10 * n + digitValue c) (before text rest)) a) :
    Yields text (readDigits n (before text (c :: rest))) a := by
  rw [readDigits]
  have hreached : n < 10000000 := Nat.lt_trans hn (by decide)
  apply (yields_note (.reached hreached)).bind
  rw [dif_neg (Text.Cursor.not_atEnd_before_cons text c rest)]
  apply (yields_current h).bind
  rw [if_pos ⟨hc, hn⟩]
  apply (yields_current h).bind
  apply Yields.next h
  rw [Text.Cursor.advance_before_cons h]
  exact hloop

/-- The loop over the digits, from a value that it can have reached. -/
theorem yields_readDigits (h : rest <:+ text) (hn : n < 10000000) :
    ∃ last, Ends n rest last ∧ Yields text (readDigits n (before text rest))
      (accumulate numberBound n (rest.takeWhile Char.isDigit), before text last) := by
  induction rest generalizing n with
  | nil =>
      exact ⟨[], .at_nondigit rfl, yields_readDigits_end (Text.Cursor.atEnd_before_nil text) hn⟩
  | cons c rest ih =>
      by_cases hc : c.isDigit = true
      · rcases Nat.lt_or_ge n numberBound with hlt | hle
        · obtain ⟨last, hends, hloop⟩ :=
            ih ((List.suffix_cons c rest).trans h) (next_value_lt hc hlt)
          refine ⟨last, hends.digit hc hlt, ?_⟩
          rw [List.takeWhile_cons_of_pos hc, Text.Decimal.accumulate_cons_of_lt hlt]
          exact yields_readDigits_next h hc hlt hloop
        · refine ⟨c :: rest, .at_bound hle, ?_⟩
          rw [Text.Decimal.accumulate_of_le hle]
          exact yields_readDigits_stay h hn fun hgo => Nat.not_lt.mpr hle hgo.2
      · refine ⟨c :: rest, .at_nondigit (List.takeWhile_cons_of_neg hc), ?_⟩
        rw [List.takeWhile_cons_of_neg hc]
        exact yields_readDigits_stay h hn fun hgo => hc hgo.1

/-- The value that the digits come to is the last one reached. -/
theorem reached_of_readDigits {m : Nat} {c d : Cursor} {seen seen' : List Sight}
    (h : (readDigits n c).run seen = .ok ((m, d), seen')) : .reached m ∈ seen' := by
  fun_induction readDigits n c generalizing seen with
  | case1 n c ih =>
      obtain ⟨_, between, hnote, h⟩ := exists_of_run_bind h
      cases hnote
      split at h
      · cases h
        exact List.mem_cons_self
      · rename_i hend
        obtain ⟨char, _, hchar, h⟩ := exists_of_run_bind h
        have hsame := seen_of_run_lift hchar
        split at h
        · obtain ⟨again, _, -, h⟩ := exists_of_run_bind h
          obtain ⟨_, _, -, h⟩ := exists_of_run_bind h
          exact ih hend again h
        · cases h
          rw [hsame]
          exact List.mem_cons_self

theorem reached_of_readNumber {m : Nat} {c d : Cursor} {seen seen' : List Sight}
    (h : (readNumber c).run seen = .ok (some (m, d), seen')) : .reached m ∈ seen' := by
  obtain ⟨⟨value, after⟩, _, hdigits, h⟩ := exists_of_run_bind h
  have hreached := reached_of_readDigits hdigits
  dsimp only at h
  split at h
  · cases h
  · cases h
    exact hreached

/-- What a number reads as: all its digits count, wherever reading them stopped. -/
theorem readNumber_eq (cs : List Char) :
    Format.readNumber cs =
      if cs.takeWhile Char.isDigit = [] ∨ numberBound ≤ value (cs.takeWhile Char.isDigit) then none
      else some (value (cs.takeWhile Char.isDigit), cs.dropWhile Char.isDigit) := by
  split
  · rename_i hnone
    exact readNumber_eq_none_iff.mpr hnone
  · rename_i hsome
    rw [not_or, Nat.not_le] at hsome
    obtain ⟨hdigits, hlt⟩ := hsome
    unfold Format.readNumber
    split
    · rename_i hnil
      exact absurd hnil hdigits
    · rw [Text.Decimal.below?_eq_some_iff.mpr ⟨rfl, hlt⟩]
      rfl

/-- Reading a number with a cursor yields what reading it off the text does. -/
theorem yields_readNumber (h : rest <:+ text) :
    Yields text (readNumber (before text rest))
      ((Format.readNumber rest).map fun (n, after) => (n, before text after)) := by
  obtain ⟨last, hends, hloop⟩ := yields_readDigits h (Nat.zero_lt_succ _)
  have hunread : (before text last).position = (before text rest).position ↔
      rest.takeWhile Char.isDigit = [] := by
    rw [Text.Cursor.position_before_eq_iff hends.suffix, hends.unread]
    simp [numberBound]
  have hbound : numberBound ≤ accumulate numberBound 0 (rest.takeWhile Char.isDigit) ↔
      numberBound ≤ value (rest.takeWhile Char.isDigit) := by
    rw [← Nat.not_lt, Text.Decimal.accumulate_zero_lt_iff, Nat.not_lt]
  apply hloop.bind
  rw [readNumber_eq]
  by_cases hnone : rest.takeWhile Char.isDigit = [] ∨
      numberBound ≤ value (rest.takeWhile Char.isDigit)
  · dsimp only
    rw [if_pos hnone, if_pos ((or_congr hunread hbound).mpr hnone)]
    exact yields_pure _
  · have hlt : value (rest.takeWhile Char.isDigit) < numberBound := by
      rw [not_or, Nat.not_le] at hnone
      exact hnone.2
    dsimp only
    rw [if_neg hnone, if_neg (mt (or_congr hunread hbound).mp hnone),
      Text.Decimal.accumulate_zero_eq hlt,
      hends.whole ((Text.Decimal.accumulate_zero_lt_iff _).mpr hlt)]
    exact yields_pure _

/-! ## Numbers at a position -/

/-- The longest run of digits that begins at a position. -/
def digitsAt (text : List Char) (position : Nat) : List Char :=
  (text.drop position).takeWhile Char.isDigit

/-- A number is read at a position: the digits denote one, and they are not too many. -/
def IsNumberAt (text : List Char) (position : Nat) : Prop :=
  digitsAt text position ≠ [] ∧ value (digitsAt text position) < 1000000

instance (text : List Char) (position : Nat) : Decidable (IsNumberAt text position) :=
  inferInstanceAs (Decidable (_ ∧ _))

variable {position : Nat}

theorem drop_digitsAt (text : List Char) (position : Nat) :
    text.drop (position + (digitsAt text position).length) =
      (text.drop position).dropWhile Char.isDigit := by
  have hsplit : text.drop position =
      digitsAt text position ++ (text.drop position).dropWhile Char.isDigit :=
    List.takeWhile_append_dropWhile.symm
  rw [← List.drop_drop]
  conv_lhs => rw [hsplit]
  exact List.drop_left

theorem readNumber_drop (text : List Char) (position : Nat) :
    Format.readNumber (text.drop position) =
      if IsNumberAt text position then
        some (value (digitsAt text position),
          text.drop (position + (digitsAt text position).length))
      else none := by
  have hnone : ¬ IsNumberAt text position ↔
      digitsAt text position = [] ∨ numberBound ≤ value (digitsAt text position) := by
    rw [IsNumberAt, not_and_or, Nat.not_lt, not_ne_iff]
    exact Iff.rfl
  rw [readNumber_eq, ← digitsAt, drop_digitsAt]
  by_cases hnumber : IsNumberAt text position
  · rw [if_neg (mt hnone.mpr (not_not.mpr hnumber)), if_pos hnumber]
  · rw [if_pos (hnone.mp hnumber), if_neg hnumber]

/-- Where the text has ended there is no number. -/
theorem yields_readNumber_end {c : Cursor} (hend : c.atEnd = true) :
    Yields text (readNumber c) none := by
  apply (yields_readDigits_end hend (Nat.zero_lt_succ _)).bind
  dsimp only
  rw [if_pos (Or.inl rfl)]
  exact yields_pure _

theorem not_isNumberAt_of_length_lt (h : text.length < position) : ¬ IsNumberAt text position := by
  rintro ⟨hdigits, -⟩
  apply hdigits
  rw [digitsAt, List.drop_eq_nil_of_le (Nat.le_of_lt h)]
  rfl

theorem before_drop_digitsAt (h : position ≤ text.length) :
    before text (text.drop (position + (digitsAt text position).length)) =
      ⟨text, position + (digitsAt text position).length⟩ := by
  have hlength : (digitsAt text position).length ≤ (text.drop position).length :=
    (List.takeWhile_sublist _).length_le
  rw [List.length_drop] at hlength
  rw [Text.Cursor.before_drop (by omega)]
  rfl

theorem yields_readNumber_at (text : List Char) (position : Nat) :
    Yields text (readNumber ⟨text, position⟩)
      (if IsNumberAt text position then
        some (value (digitsAt text position), ⟨text, position + (digitsAt text position).length⟩)
      else none) := by
  rcases Nat.lt_or_ge text.length position with hbeyond | hposition
  · have hend : (⟨text, position⟩ : Cursor).atEnd = true := by
      simp only [Cursor.atEnd, decide_eq_true_eq]
      omega
    rw [if_neg (not_isNumberAt_of_length_lt hbeyond)]
    exact yields_readNumber_end hend
  · have hread := yields_readNumber (List.drop_suffix position text)
    rw [readNumber_drop, Text.Cursor.before_drop hposition] at hread
    by_cases hnumber : IsNumberAt text position
    · rw [if_pos hnumber] at hread ⊢
      rw [← before_drop_digitsAt hposition]
      exact hread
    · rw [if_neg hnumber] at hread ⊢
      exact hread

/-- **Numbers are read exactly.** From any position of any text a number is read if and only if
the longest run of digits that begins there is not empty and denotes less than a million. It is
then what the run denotes, and the cursor stands right after the run; the same is read off the
text without a cursor. What is read has been reached digit by digit, and no value of eight digits
is reached on the way. -/
theorem number_read_exactly (text : List Char) (position : Nat) (seen : List Sight) :
    ∃ sights,
      (readNumber ⟨text, position⟩).run seen =
        .ok (if IsNumberAt text position then
            some (value (digitsAt text position),
              ⟨text, position + (digitsAt text position).length⟩)
          else none, sights ++ seen) ∧
      (IsNumberAt text position → .reached (value (digitsAt text position)) ∈ sights) ∧
      (∀ n, .reached n ∈ sights → n < 10000000) ∧
      Format.readNumber (text.drop position) =
        if IsNumberAt text position then
          some (value (digitsAt text position),
            text.drop (position + (digitsAt text position).length))
        else none := by
  obtain ⟨sights, hsound, hrun⟩ := yields_readNumber_at text position
  refine ⟨sights, hrun seen, ?_, ?_, readNumber_drop text position⟩
  · intro hnumber
    have hread := hrun []
    rw [if_pos hnumber, List.append_nil] at hread
    exact reached_of_readNumber hread
  · intro n hn
    cases hsound _ hn with
    | reached hlt => exact hlt

/-- Any number of zeros may lead, and the bound itself is no number. -/
example : IsNumberAt "\x7b0000000000042,".toList 1 ∧ ¬ IsNumberAt "1000000".toList 0 := by
  decide +kernel

end ResourceAudit.Format.Walk
