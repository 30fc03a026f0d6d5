import Mathlib.Data.List.Basic

/-!
# Steps that report

A step of a longer process makes one attempt. If the attempt succeeds, the step hands what was
found to a receiver, item by item and whatever the receiver was given before (`Reports`). Steps
in a row, one for each element of a list, report in the order of the list.
-/

namespace ResourceAudit

variable {ε σ ι α β γ δ : Type} {receive : σ → ι → σ}

/-- The step makes the attempt and reports what it finds, whatever was reported before. -/
def Reports (receive : σ → ι → σ) (step : StateT σ (Except ε) γ) (attempt : Except ε β)
    (value : β → γ) (found : β → List ι) : Prop :=
  ∀ s, step.run s = attempt.map fun b => (value b, (found b).foldl receive s)

theorem forM_eq_mapM (step : α → StateT σ (Except ε) Unit) (xs : List α) :
    xs.forM step = xs.mapM step >>= fun _ => pure () := by
  induction xs with
  | nil => rfl
  | cons x xs ih =>
      have hcons : (x :: xs).forM step = step x >>= fun _ => xs.forM step := rfl
      rw [hcons, ih, List.mapM_cons]
      simp only [bind_assoc, pure_bind]

namespace Reports

/-- One attempt, and a report of what was found if it succeeds. -/
theorem of_attempt (attempt : Except ε β) (value : β → γ) (found : β → List ι) :
    Reports receive
      (StateT.lift attempt >>= fun b =>
        modify (fun s => (found b).foldl receive s) >>= fun _ => pure (value b))
      attempt value found := by
  intro s
  cases attempt <;> rfl

/-- What follows a step starts from what the step found and reported. -/
theorem run_bind {step : StateT σ (Except ε) γ} {attempt : Except ε β} {value : β → γ}
    {found : β → List ι} (h : Reports receive step attempt value found)
    (next : γ → StateT σ (Except ε) δ) (s : σ) :
    (step >>= next).run s =
      attempt >>= fun b => (next (value b)).run ((found b).foldl receive s) := by
  rw [StateT.run_bind, h s]
  cases attempt <;> rfl

theorem mapM {step : α → StateT σ (Except ε) γ} {attempt : α → Except ε β} {value : β → γ}
    {found : β → List ι} (h : ∀ x, Reports receive (step x) (attempt x) value found)
    (xs : List α) :
    Reports receive (xs.mapM step) (xs.mapM attempt) (List.map value)
      fun bs => (bs.map found).flatten := by
  induction xs with
  | nil =>
      intro s
      rfl
  | cons x xs ih =>
      intro s
      rw [List.mapM_cons, List.mapM_cons, (h x).run_bind]
      cases attempt x with
      | error e => rfl
      | ok b =>
          -- The other steps start from another state, so the induction is over all of them.
          show (xs.mapM step >>= fun cs => pure (value b :: cs)).run ((found b).foldl receive s) = _
          rw [ih.run_bind]
          cases xs.mapM attempt with
          | error e => rfl
          | ok bs =>
              have happend : ((found b) ++ (bs.map found).flatten).foldl receive s =
                  (bs.map found).flatten.foldl receive ((found b).foldl receive s) :=
                List.foldl_append
              exact congrArg (fun s' => Except.ok (value b :: bs.map value, s')) happend.symm

/-- A loop that carries a value from step to step. -/
theorem foldlM {step : γ → α → StateT σ (Except ε) γ} {attempt : α → Except ε β}
    {value : γ → β → γ} {found : β → List ι}
    (h : ∀ c x, Reports receive (step c x) (attempt x) (value c) found) (xs : List α) (c : γ) :
    Reports receive (xs.foldlM step c) (xs.mapM attempt) (fun bs => bs.foldl value c)
      fun bs => (bs.map found).flatten := by
  induction xs generalizing c with
  | nil =>
      intro s
      rfl
  | cons x xs ih =>
      intro s
      rw [List.foldlM_cons, List.mapM_cons, (h c x).run_bind]
      cases attempt x with
      | error e => rfl
      | ok b =>
          show (xs.foldlM step (value c b)).run ((found b).foldl receive s) = _
          rw [ih (value c b)]
          cases xs.mapM attempt with
          | error e => rfl
          | ok bs =>
              have happend : ((found b) ++ (bs.map found).flatten).foldl receive s =
                  (bs.map found).flatten.foldl receive ((found b).foldl receive s) :=
                List.foldl_append
              exact congrArg (fun s' => Except.ok (bs.foldl value (value c b), s')) happend.symm

theorem forM {step : α → StateT σ (Except ε) Unit} {attempt : α → Except ε β}
    {found : β → List ι} (h : ∀ x, Reports receive (step x) (attempt x) (fun _ => ()) found)
    (xs : List α) :
    Reports receive (xs.forM step) (xs.mapM attempt) (fun _ => ())
      fun bs => (bs.map found).flatten := by
  intro s
  rw [forM_eq_mapM, (mapM h xs).run_bind]
  cases xs.mapM attempt <;> rfl

end Reports

end ResourceAudit
