import ResourceAudit.Format.Walk
import ResourceAudit.Proofs.Collection.Attempt
import ResourceAudit.Proofs.Text.Cursor
import ResourceAudit.Proofs.Text.Run

/-!
# What a walk yields

A part of a scan that starts before an end of the text yields a result if no character is missing
and all that it passes is sound, whatever was passed before (`Yields`). Parts in a row yield what
the last one does (`Yields.bind`), so every reader has one statement of this form, which gives
its result in terms of the text and not of cursors.
-/

namespace ResourceAudit.Format.Walk

open Text (Cursor CursorError)
open Text.Cursor (before)

/-- What may be passed on the way through a text. -/
inductive Sound (text : List Char) : Sight → Prop
  | made {c : Cursor} (h : c.Within text) : Sound text (.made c)
  | reached {value : Nat} (h : value < 10000000) : Sound text (.reached value)

def Yields {α : Type} (text : List Char) (x : Walk α) (a : α) : Prop :=
  ∃ sights, (∀ s ∈ sights, Sound text s) ∧ ∀ seen, x.run seen = .ok (a, sights ++ seen)

variable {α β : Type} {text rest : List Char} {x : Walk α} {f : α → Walk β} {a : α} {b : β}

theorem yields_pure (a : α) : Yields text (pure a) a := by
  refine ⟨[], ?_, ?_⟩
  · simp
  · intro seen
    rfl

theorem Yields.bind (hx : Yields text x a) (hf : Yields text (f a) b) :
    Yields text (x >>= f) b := by
  obtain ⟨first, hfirst, hx⟩ := hx
  obtain ⟨second, hsecond, hf⟩ := hf
  refine ⟨second ++ first, ?_, ?_⟩
  · intro s hs
    rcases List.mem_append.mp hs with hs | hs
    · exact hsecond s hs
    · exact hfirst s hs
  · intro seen
    rw [StateT.run_bind, hx seen, List.append_assoc]
    exact hf (first ++ seen)

theorem yields_lift {y : Except CursorError α} (h : y = .ok a) : Yields text (liftM y) a := by
  subst h
  exact yields_pure a

theorem yields_note {s : Sight} (h : Sound text s) : Yields text (note s) () := by
  refine ⟨[s], ?_, ?_⟩
  · simpa using h
  · intro seen
    rfl

/-! ## What has been passed -/

section Passed

variable {seen seen' : List Sight}

theorem exists_of_run_bind (h : (x >>= f).run seen = .ok (b, seen')) :
    ∃ a between, x.run seen = .ok (a, between) ∧ (f a).run between = .ok (b, seen') := by
  rw [StateT.run_bind] at h
  obtain ⟨⟨a, between⟩, hx, hf⟩ := Attempt.bind_eq_ok.mp h
  exact ⟨a, between, hx, hf⟩

/-- Reading a character passes nothing. -/
theorem seen_of_run_lift {y : Except CursorError α}
    (h : (liftM y : Walk α).run seen = .ok (a, seen')) : seen' = seen := by
  cases y with
  | error e => cases h
  | ok b =>
      cases h
      rfl

end Passed

/-! ## Reading and moving -/

theorem yields_current {c : Char} (h : (c :: rest) <:+ text) :
    Yields text (liftM (before text (c :: rest)).current) c :=
  yields_lift (Text.Cursor.current_before h)

theorem yields_peek (h : rest <:+ text) (n : Nat) :
    Yields text (liftM ((before text rest).peek n)) rest[n]? :=
  yields_lift (Text.Cursor.peek_before h n)

theorem sound_advance (h : rest <:+ text) (n : Nat) :
    Sound text (.made (before text (rest.drop n))) :=
  .made (Text.Cursor.within_before ((List.drop_suffix n rest).trans h))

theorem yields_move (h : rest <:+ text) (n : Nat) :
    Yields text (move (before text rest) n) (before text (rest.drop n)) := by
  unfold move
  rw [Text.Cursor.advance_before h]
  exact (yields_note (sound_advance h n)).bind (yields_pure _)

theorem yields_expect_self {wanted : Char} (h : (wanted :: rest) <:+ text) :
    Yields text (expect (before text (wanted :: rest)) wanted) (some (before text rest)) := by
  apply (yields_peek h 0).bind
  rw [List.getElem?_cons_zero, if_pos rfl]
  exact (yields_move h 1).bind (yields_pure _)

theorem yields_expect_none {wanted : Char} (h : rest <:+ text)
    (hwanted : rest.head? ≠ some wanted) :
    Yields text (expect (before text rest) wanted) none := by
  apply (yields_peek h 0).bind
  rw [if_neg]
  · exact yields_pure _
  · rwa [← List.head?_eq_getElem?]

/-- A loop that goes on has moved by one character. -/
theorem Yields.next {c : Char} (h : (c :: rest) <:+ text) (hx : Yields text x a) :
    Yields text (note (.made ((before text (c :: rest)).advance 1)) >>= fun _ => x) a := by
  rw [Text.Cursor.advance_before_cons h]
  exact (yields_note (sound_advance h 1)).bind hx

theorem yields_skipSpaces (h : rest <:+ text) :
    Yields text (skipSpaces (before text rest)) (before text (Format.skipSpaces rest)) := by
  induction rest with
  | nil =>
      rw [skipSpaces, dif_pos (Text.Cursor.atEnd_before_nil text)]
      exact yields_pure _
  | cons c rest ih =>
      rw [skipSpaces, dif_neg (Text.Cursor.not_atEnd_before_cons text c rest)]
      apply (yields_current h).bind
      by_cases hc : c = ' '
      · subst hc
        rw [if_pos rfl]
        apply Yields.next h
        rw [Text.Cursor.advance_before_cons h]
        exact ih ((List.suffix_cons _ rest).trans h)
      · have hstay : Format.skipSpaces (c :: rest) = c :: rest := by
          simp [Format.skipSpaces, hc]
        rw [if_neg hc, hstay]
        exact yields_pure _

end ResourceAudit.Format.Walk
