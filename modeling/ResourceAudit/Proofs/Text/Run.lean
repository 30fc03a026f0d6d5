import Mathlib.Data.List.TakeWhile

/-!
# Runs of characters

A run is a text whose characters all belong to one class. A reader takes the
longest run it finds, so what it takes is settled by what follows: a text that
`Stops` the class.
-/

namespace ResourceAudit.Text

variable {p : Char → Bool}

/-- The text does not begin with a character of the class. -/
def Stops (p : Char → Bool) (rest : List Char) : Prop :=
  rest.takeWhile p = []

@[simp]
theorem stops_nil : Stops p [] := rfl

@[simp]
theorem stops_cons {c : Char} {rest : List Char} : Stops p (c :: rest) ↔ p c = false := by
  unfold Stops
  rw [List.takeWhile_cons]
  split
  · rename_i h
    simp [h]
  · rename_i h
    simpa using h

theorem takeWhile_run {run rest : List Char} (hrun : ∀ c ∈ run, p c = true)
    (hrest : Stops p rest) : (run ++ rest).takeWhile p = run := by
  rw [List.takeWhile_append_of_pos hrun, hrest, List.append_nil]

theorem dropWhile_run {run rest : List Char} (hrun : ∀ c ∈ run, p c = true)
    (hrest : Stops p rest) : (run ++ rest).dropWhile p = rest := by
  have hsplit := List.takeWhile_append_dropWhile (p := p) (l := run ++ rest)
  rw [takeWhile_run hrun hrest] at hsplit
  exact List.append_cancel_left hsplit

theorem Stops.append {rest : List Char} (h : Stops p rest) (hne : rest ≠ []) (more : List Char) :
    Stops p (rest ++ more) := by
  obtain ⟨c, tail, rfl⟩ := List.exists_cons_of_ne_nil hne
  rw [stops_cons] at h
  rw [List.cons_append, stops_cons]
  exact h

theorem stops_dropWhile (cs : List Char) : Stops p (cs.dropWhile p) := by
  induction cs with
  | nil => rfl
  | cons c cs ih =>
      rw [List.dropWhile_cons]
      split
      · exact ih
      · rename_i hc
        exact stops_cons.mpr (Bool.eq_false_iff.mpr hc)

/-- A run that was stopped within a text is not prolonged by what follows the text. -/
theorem run_append_of_stopped {cs : List Char} (h : cs.dropWhile p ≠ []) (more : List Char) :
    (cs ++ more).takeWhile p = cs.takeWhile p ∧
      (cs ++ more).dropWhile p = cs.dropWhile p ++ more := by
  have hstops : Stops p (cs.dropWhile p ++ more) := (stops_dropWhile cs).append h more
  have hsplit : cs ++ more = cs.takeWhile p ++ (cs.dropWhile p ++ more) := by
    rw [← List.append_assoc, List.takeWhile_append_dropWhile]
  have hrun : ∀ c ∈ cs.takeWhile p, p c = true := fun c hc => List.mem_takeWhile_imp hc
  rw [hsplit]
  exact ⟨takeWhile_run hrun hstops, dropWhile_run hrun hstops⟩

/-- A text is cut into a run and what stops it in one way only. -/
theorem run_append_inj {run run' rest rest' : List Char}
    (hrun : ∀ c ∈ run, p c = true) (hrun' : ∀ c ∈ run', p c = true)
    (hrest : Stops p rest) (hrest' : Stops p rest')
    (h : run ++ rest = run' ++ rest') : run = run' ∧ rest = rest' := by
  have hsame : run = run' := by
    rw [← takeWhile_run hrun hrest, h, takeWhile_run hrun' hrest']
  subst hsame
  exact ⟨rfl, List.append_cancel_left h⟩

end ResourceAudit.Text
