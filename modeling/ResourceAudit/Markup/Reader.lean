import ResourceAudit.Markup.Character
import ResourceAudit.Markup.Fault

/-!
# Readers

A reader consumes the start of a text. It answers a value and the rest of the
text, which is never longer than the text itself, or a fault. Repetition ends
because every round must consume something.
-/

namespace ResourceAudit.Markup

/-- A value and the text that follows it. -/
structure Reading (α : Type) (text : List Char) where
  value : α
  rest : List Char
  /-- Whether at least one character is known to be consumed. -/
  consumed : Bool
  bound : rest.length + consumed.toNat ≤ text.length

def Reader (α : Type) : Type :=
  (text : List Char) → Except Fault (Reading α text)

namespace Reader

variable {α β σ : Type}

theorem toNat_or_le (a b : Bool) : (a || b).toNat ≤ a.toNat + b.toNat := by
  cases a <;> cases b <;> decide

instance : Monad Reader where
  pure value := fun text => .ok ⟨value, text, false, Nat.le_refl _⟩
  bind reader next := fun text =>
    match reader text with
    | .error fault => .error fault
    | .ok first =>
        match next first.value first.rest with
        | .error fault => .error fault
        | .ok second =>
            .ok ⟨second.value, second.rest, first.consumed || second.consumed, by
              have := first.bound
              have := second.bound
              have := toNat_or_le first.consumed second.consumed
              omega⟩

def fail (fault : Fault) : Reader α :=
  fun _ => .error fault

def lift (outcome : Except Fault α) : Reader α :=
  fun text => outcome.map fun value => ⟨value, text, false, Nat.le_refl _⟩

/-- Whether the text has ended. -/
def atEnd : Reader Bool :=
  fun text => .ok ⟨text.isEmpty, text, false, Nat.le_refl _⟩

/-- Whether the text goes on with the given characters. -/
def sees (wanted : List Char) : Reader Bool :=
  fun text => .ok ⟨wanted.isPrefixOf text, text, false, Nat.le_refl _⟩

/-- Whether at least so many characters follow. -/
def holds (count : Nat) : Reader Bool :=
  fun text => .ok ⟨count ≤ (text.take count).length, text, false, Nat.le_refl _⟩

/-- The next character, which stays. -/
def peek : Reader Char
  | [] => .error .unclosedToken
  | c :: rest =>
      if isDocumentChar c then .ok ⟨c, c :: rest, false, Nat.le_refl _⟩
      else .error .invalidToken

/-- The next character. -/
def next : Reader Char
  | [] => .error .unclosedToken
  | c :: rest =>
      if isDocumentChar c then .ok ⟨c, rest, true, Nat.le_refl _⟩ else .error .invalidToken

/-- Consumes one given character. -/
def expect (wanted : Char) : Reader Unit := do
  if (← next) = wanted then return else fail .invalidToken

/-- The longest run of characters of a kind. -/
def takeWhile (p : Char → Bool) : Reader (List Char) :=
  fun text =>
    .ok ⟨text.takeWhile p, text.dropWhile p, false, (List.dropWhile_suffix _).length_le⟩

/-- Skips separators; tells whether there were any. -/
def skipSeparators : Reader Bool := do
  return !(← takeWhile isSeparator).isEmpty

/-- Everything before the first occurrence of a marker, which is consumed. -/
def upTo (marker : List Char) (unclosed : Fault) : Reader (List Char)
  | [] => .error unclosed
  | c :: rest =>
      if marker.isPrefixOf (c :: rest) then
        .ok ⟨[], (c :: rest).drop marker.length, false, by simp⟩
      else if isDocumentChar c then
        match upTo marker unclosed rest with
        | .error fault => .error fault
        | .ok tail =>
            .ok ⟨c :: tail.value, tail.rest, true, by have := tail.bound; simp; omega⟩
      else .error .invalidToken

/-- Repeats a step on a state until it answers a result. A round that consumes
nothing and has no result is refused. -/
def loop (step : σ → Reader (σ ⊕ β)) (state : σ) : Reader β := fun text =>
  match step state text with
  | .error fault => .error fault
  | .ok ⟨.inr result, rest, consumed, bound⟩ => .ok ⟨result, rest, consumed, bound⟩
  | .ok ⟨.inl _, _, false, _⟩ => .error .invalidToken
  | .ok ⟨.inl state, rest, true, bound⟩ =>
      match loop step state rest with
      | .error fault => .error fault
      | .ok tail =>
          .ok ⟨tail.value, tail.rest, true, by
            have := tail.bound
            simp only [Bool.toNat_true] at *
            omega⟩
termination_by text => text.length
decreasing_by
  simp only [Bool.toNat_true] at bound
  omega

/-- The value of a reader that has to read a whole text. -/
def run (reader : Reader α) (text : List Char) : Except Fault α :=
  (reader text).map Reading.value

/-- A simple name whose first character has been read. -/
def nameFrom (first : Char) : Reader String := do
  if isNameStart first then
    return String.ofList (first :: (← takeWhile isNameChar))
  else fail .invalidToken

/-- A simple name. -/
def name : Reader String := do
  nameFrom (← next)

end Reader

end ResourceAudit.Markup
