import ResourceAudit.Specifier.Pattern

/-!
# Patterns by position

The check of a custom pattern as a position that is moved through it. A character is read by its
position, which fails outside the pattern, and the end of a run or of a quoted literal is a
position too. Patterns for dates and for durations differ in what a token may be (`Dialect`), not
in how the position is moved. A token gets on at least by one character
(`Dialect.lt_of_nextPosition`), so a check ends.
-/

namespace ResourceAudit.Pattern

/-- Characters that begin a token of their own in every pattern. -/
def isMark (c : Char) : Bool :=
  isQuote c || c == '%' || c == '\\'

/-- What the tokens of a kind of pattern may be. -/
structure Dialect where
  /-- The longest run of a letter, zero for a character that is no pattern letter. -/
  runLimit : Char → Nat
  /-- Which characters may follow a percent sign. -/
  afterPercent : Char → Bool
  /-- Whether other characters stand for themselves. -/
  hasBare : Bool
  runLimit_mark : ∀ c, isMark c = true → runLimit c = 0

/-- A position at which there is no character. -/
structure Unread where
  position : Nat
deriving DecidableEq, Repr

def charAt (pattern : List Char) (position : Nat) : Except Unread Char :=
  match pattern[position]? with
  | some c => .ok c
  | none => .error ⟨position⟩

/-- The position after the repetitions of the character at another position. -/
def runEnd (pattern : List Char) (start stop : Nat) : Except Unread Nat := do
  if stop < pattern.length then
    if (← charAt pattern stop) = (← charAt pattern start) then
      runEnd pattern start (stop + 1)
    else
      return stop
  else
    return stop
termination_by pattern.length - stop

/-- How long the run is that begins at a position. -/
def runLengthAt (pattern : List Char) (start : Nat) : Except Unread Nat := do
  return (← runEnd pattern start start) - start

/-- The position after the quote that closes a literal, from a position within the literal; none
if it stays open. -/
def literalEnd (pattern : List Char) (quote : Char) (position : Nat) :
    Except Unread (Option Nat) := do
  if position < pattern.length then
    let c ← charAt pattern position
    if c = '\\' then
      literalEnd pattern quote (position + 2)
    else if c = quote then
      return some (position + 1)
    else
      literalEnd pattern quote (position + 1)
  else
    return none
termination_by pattern.length - position

/-- The position after the literal that the quote at a position opens. -/
def quotedEnd (pattern : List Char) (position : Nat) : Except Unread (Option Nat) := do
  literalEnd pattern (← charAt pattern position) (position + 1)

/-- The position after the token at a position; none if there is no token. -/
def Dialect.nextPosition (d : Dialect) (pattern : List Char) (position : Nat) :
    Except Unread (Option Nat) := do
  let c ← charAt pattern position
  if 0 < d.runLimit c then
    let run ← runLengthAt pattern position
    return if d.runLimit c < run then none else some (position + run)
  else if isQuote c then
    quotedEnd pattern position
  else if c = '%' then
    if pattern.length ≤ position + 1 then
      return none
    else if d.afterPercent (← charAt pattern (position + 1)) then
      return some (position + 1)
    else
      return none
  else if c = '\\' then
    return if pattern.length ≤ position + 1 then none else some (position + 2)
  else
    return if d.hasBare then some (position + 1) else none

/-! ## Progress -/

section Progress

variable {d : Dialect} {pattern : List Char} {c quote : Char} {position start stop last : Nat}

/-- What comes after a reading goes on with what was read. -/
theorem exists_of_bind {α β : Type} {x : Except Unread α} {f : α → Except Unread β} {b : β}
    (h : (x >>= f) = .ok b) : ∃ a, x = .ok a ∧ f a = .ok b := by
  cases x with
  | error e => cases h
  | ok a => exact ⟨a, rfl, h⟩

theorem le_of_runEnd (h : runEnd pattern start stop = .ok last) : stop ≤ last := by
  fun_induction runEnd pattern start stop with
  | case1 stop hlt ih =>
      obtain ⟨found, -, h⟩ := exists_of_bind h
      obtain ⟨letter, -, h⟩ := exists_of_bind h
      split at h
      · exact Nat.le_of_succ_le (ih h)
      · cases h
        exact Nat.le_refl _
  | case2 stop hend =>
      cases h
      exact Nat.le_refl _

/-- A run holds the character that it begins with. -/
theorem lt_of_runEnd (hlt : start < pattern.length)
    (h : runEnd pattern start start = .ok last) : start < last := by
  rw [runEnd, if_pos hlt] at h
  obtain ⟨found, hfound, h⟩ := exists_of_bind h
  obtain ⟨letter, hletter, h⟩ := exists_of_bind h
  rw [if_pos (Except.ok.inj (hfound.symm.trans hletter))] at h
  exact le_of_runEnd h

theorem lt_of_literalEnd (h : literalEnd pattern quote position = .ok (some stop)) :
    position < stop := by
  fun_induction literalEnd pattern quote position with
  | case1 position hlt ihEscape ihPlain =>
      obtain ⟨c, -, h⟩ := exists_of_bind h
      split at h
      · exact Nat.lt_of_succ_lt (Nat.lt_of_succ_lt (ihEscape h))
      · split at h
        · cases h
          exact Nat.lt_succ_self position
        · exact Nat.lt_of_succ_lt (ihPlain h)
  | case2 position hend => cases h

theorem lt_of_quotedEnd (h : quotedEnd pattern position = .ok (some stop)) : position < stop := by
  obtain ⟨quote, -, h⟩ := exists_of_bind h
  exact Nat.lt_of_succ_lt (lt_of_literalEnd h)

/-- A token gets on at least by one character. -/
theorem Dialect.lt_of_nextPosition (hlt : position < pattern.length)
    (hnext : d.nextPosition pattern position = .ok (some stop)) : position < stop := by
  obtain ⟨c, -, hnext⟩ := exists_of_bind hnext
  -- The first character is a letter, a quote, a percent sign, a backslash or any other one.
  split at hnext
  · obtain ⟨run, hrun, hnext⟩ := exists_of_bind hnext
    obtain ⟨last, hlast, hrun⟩ := exists_of_bind hrun
    have hahead := lt_of_runEnd hlt hlast
    cases hrun
    split at hnext
    · cases hnext
    · cases hnext
      omega
  · split at hnext
    · exact lt_of_quotedEnd hnext
    · split at hnext
      · split at hnext
        · cases hnext
        · obtain ⟨next, -, hnext⟩ := exists_of_bind hnext
          split at hnext
          · cases hnext
            exact Nat.lt_succ_self position
          · cases hnext
      · split at hnext
        · split at hnext
          · cases hnext
          · cases hnext
            omega
        · split at hnext
          · cases hnext
            exact Nat.lt_succ_self position
          · cases hnext

end Progress

namespace Dialect

/-- Drops one token after another from a position on. The positions that are tested for the end
of the pattern are kept, the latest first. -/
def loop (d : Dialect) (pattern : List Char) (position : Nat) (seen : List Nat) :
    Except Unread (Bool × List Nat) :=
  if _hlt : position < pattern.length then
    match _hnext : d.nextPosition pattern position with
    | .error e => .error e
    | .ok none => .ok (false, position :: seen)
    | .ok (some stop) => d.loop pattern stop (position :: seen)
  else
    .ok (true, position :: seen)
termination_by pattern.length - position
decreasing_by
  have hahead := lt_of_nextPosition _hlt _hnext
  omega

/-- The check of a pattern: a single character is one of the standard formats. -/
def check (d : Dialect) (standard pattern : List Char) : Except Unread (Bool × List Nat) :=
  match pattern with
  | [c] => .ok (standard.contains c, [])
  | _ => d.loop pattern 0 []

end Dialect

end ResourceAudit.Pattern
