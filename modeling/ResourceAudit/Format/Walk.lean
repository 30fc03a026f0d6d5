import ResourceAudit.Format.Scan
import ResourceAudit.Text.Cursor

/-!
# Scanning with a cursor

The scan of a value character by character. A cursor reads the character under it or one
ahead, which fails where there is none, and makes a new cursor further on. What is passed
on the way is kept, so that not only the outcome of a scan can be spoken of but all that
happens until then.
-/

namespace ResourceAudit.Format

open Text (Cursor CursorError)

/-- What is passed during a scan. -/
inductive Sight
  /-- A cursor was made. -/
  | made (c : Cursor)
  /-- The end of the value was tested for, between two of its segments. -/
  | tested (c : Cursor)
  /-- A number had a value before its next digit was looked at. -/
  | reached (value : Nat)
deriving DecidableEq, Repr

/-- A part of a scan, which keeps what it passes, the latest first. -/
abbrev Walk := StateT (List Sight) (Except CursorError)

/-- A problem, and the cursor at which it was met. -/
structure Stop where
  problem : Problem
  cursor : Cursor
deriving DecidableEq, Repr

namespace Stop

def error (s : Stop) : ScanError :=
  ⟨s.problem, s.cursor.position.toNat⟩

end Stop

namespace Walk

def note (s : Sight) : Walk Unit :=
  modify (s :: ·)

def move (c : Cursor) (count : Int) : Walk Cursor := do
  note (.made (c.advance count))
  return c.advance count

/-- Consumes a character if it is next. -/
def expect (c : Cursor) (wanted : Char) : Walk (Option Cursor) := do
  if (← c.peek 0) = some wanted then return some (← move c 1) else return none

theorem remaining_advance_lt {c : Cursor} (h : ¬ c.atEnd = true) :
    ((c.advance 1).source.length - (c.advance 1).position).toNat <
      (c.source.length - c.position).toNat := by
  have hlt := Cursor.lt_of_not_atEnd h
  simp only [Cursor.advance]
  omega

def skipSpaces (c : Cursor) : Walk Cursor := do
  if _hend : c.atEnd = true then
    return c
  else if (← c.current) = ' ' then
    note (.made (c.advance 1))
    skipSpaces (c.advance 1)
  else
    return c
termination_by (c.source.length - c.position).toNat
decreasing_by exact remaining_advance_lt _hend

/-- Reads digits until the value they denote reaches the bound. -/
def readDigits (value : Nat) (c : Cursor) : Walk (Nat × Cursor) := do
  note (.reached value)
  if _hend : c.atEnd = true then
    return (value, c)
  else if (← c.current).isDigit ∧ value < numberBound then
    let digit := Text.Decimal.digitValue (← c.current)
    note (.made (c.advance 1))
    readDigits (10 * value + digit) (c.advance 1)
  else
    return (value, c)
termination_by (c.source.length - c.position).toNat
decreasing_by exact remaining_advance_lt _hend

/-- Reads a number below the bound. -/
def readNumber (c : Cursor) : Walk (Option (Nat × Cursor)) := do
  let (value, after) ← readDigits 0 c
  return if after.position = c.position ∨ numberBound ≤ value then none else some (value, after)

/-- Reads an optional alignment. -/
def skipAlignment (c : Cursor) : Walk (Except Stop Cursor) := do
  match ← expect c ',' with
  | none => return .ok c
  | some comma =>
      let gap ← skipSpaces comma
      let width := (← expect gap '-').getD gap
      match ← readNumber width with
      | none => return .error ⟨.widthExpected, width⟩
      | some (_, after) => return .ok (← skipSpaces after)

/-- Moves to the next closing brace, or to the end of the value. -/
def skipSpecifier (c : Cursor) : Walk (Except Stop Cursor) := do
  if _hend : c.atEnd = true then
    return .ok c
  else if (← c.current) = '}' then
    return .ok c
  else if (← c.current) = '{' then
    return .error ⟨.braceInSpecifier, c⟩
  else
    note (.made (c.advance 1))
    skipSpecifier (c.advance 1)
termination_by (c.source.length - c.position).toNat
decreasing_by exact remaining_advance_lt _hend

/-- Reads an optional specifier. -/
def readSpecifier (c : Cursor) : Walk (Except Stop (Option String × Cursor)) := do
  match ← expect c ':' with
  | none => return .ok (none, c)
  | some colon =>
      match ← skipSpecifier colon with
      | .error stop => return .error stop
      | .ok last =>
          if last.atEnd then
            return .error ⟨.specifierNotClosed, last⟩
          else
            match colon.sliceTo last.position with
            | [] => return .error ⟨.specifierEmpty, last⟩
            | text => return .ok (some (String.ofList text), last)

/-- Reads the rest of an item after index and alignment. -/
def readEnd (index : Nat) (c : Cursor) : Walk (Except Stop (Item × Cursor)) := do
  match ← readSpecifier c with
  | .error stop => return .error stop
  | .ok (specifier, last) =>
      match ← expect last '}' with
      | none => return .error ⟨.itemNotClosed, last⟩
      | some closed => return .ok (⟨index, specifier⟩, closed)

/-- Reads an item after its opening brace. -/
def readItem (c : Cursor) : Walk (Except Stop (Item × Cursor)) := do
  match ← readNumber c with
  | none => return .error ⟨.indexExpected, c⟩
  | some (index, after) =>
      match ← skipAlignment (← skipSpaces after) with
      | .error stop => return .error stop
      | .ok aligned => readEnd index aligned

/-- How a segment ends. -/
inductive Turn
  | stop (s : Stop)
  | next (item : Option Item) (c : Cursor)
deriving DecidableEq, Repr

/-- Reads the segment under the cursor. -/
def turn (c : Cursor) : Walk Turn := do
  match ← c.current with
  | '}' =>
      if (← c.peek 1) = some '}' then return .next none (← move c 2)
      else return .stop ⟨.strayBrace, c⟩
  | '{' =>
      if (← c.peek 1) = some '{' then return .next none (← move c 2)
      else
        match ← readItem (← move c 1) with
        | .error stop => return .stop stop
        | .ok (item, after) => return .next (some item) after
  | _ => return .next none (← move c 1)

/-! ## Progress -/

/-- A cursor in the same text that has not gone back. -/
def Onward (c d : Cursor) : Prop :=
  d.source = c.source ∧ c.position ≤ d.position

/-- A cursor in the same text that has got on. -/
def Ahead (c d : Cursor) : Prop :=
  d.source = c.source ∧ c.position < d.position

/-- A part of a scan has a result, whatever was passed before. -/
def Returns {α : Type} (x : Walk α) (a : α) : Prop :=
  ∃ seen seen', x.run seen = .ok (a, seen')

/-- A reader ends further ahead than it begins, whenever it reads something. -/
def GetsOn {α : Type} (read : Cursor → Walk (Except Stop (α × Cursor))) : Prop :=
  ∀ c a d, Returns (read c) (.ok (a, d)) → Ahead c d

section

variable {α β : Type} {x : Walk α} {f : α → Walk β} {a : α} {b : β} {c d e : Cursor}

theorem Onward.refl (c : Cursor) : Onward c c :=
  ⟨rfl, Int.le_refl _⟩

theorem Onward.trans (hcd : Onward c d) (hde : Onward d e) : Onward c e :=
  ⟨hde.1.trans hcd.1, Int.le_trans hcd.2 hde.2⟩

theorem Ahead.onward (h : Ahead c d) : Onward c d :=
  ⟨h.1, Int.le_of_lt h.2⟩

theorem Ahead.trans_onward (hcd : Ahead c d) (hde : Onward d e) : Ahead c e :=
  ⟨hde.1.trans hcd.1, Int.lt_of_lt_of_le hcd.2 hde.2⟩

theorem Onward.trans_ahead (hcd : Onward c d) (hde : Ahead d e) : Ahead c e :=
  ⟨hde.1.trans hcd.1, Int.lt_of_le_of_lt hcd.2 hde.2⟩

theorem returns_pure {b : α} (h : Returns (pure a) b) : b = a := by
  obtain ⟨seen, seen', h⟩ := h
  cases h
  rfl

theorem returns_bind (h : Returns (x >>= f) b) : ∃ a, Returns x a ∧ Returns (f a) b := by
  obtain ⟨seen, seen', h⟩ := h
  rw [StateT.run_bind] at h
  cases hx : x.run seen with
  | error e =>
      rw [hx] at h
      cases h
  | ok r =>
      rw [hx] at h
      exact ⟨r.1, ⟨seen, r.2, hx⟩, r.2, seen', h⟩

theorem returns_lift {y : Except CursorError α} (h : Returns (liftM y) a) : y = .ok a := by
  obtain ⟨seen, seen', h⟩ := h
  cases y with
  | error e => cases h
  | ok b =>
      cases h
      rfl

theorem ahead_advance {count : Int} (hlt : c.position < c.source.length) (hcount : 0 < count) :
    Ahead c (c.advance count) := by
  refine ⟨rfl, ?_⟩
  simp only [Cursor.advance]
  omega

theorem ahead_advance_of_not_atEnd (h : ¬ c.atEnd = true) : Ahead c (c.advance 1) :=
  ahead_advance (Cursor.lt_of_not_atEnd h) Int.one_pos

theorem position_lt_of_peek {char : Char} (h : c.peek 0 = .ok (some char)) :
    c.position < c.source.length := by
  unfold Cursor.peek Cursor.charAt at h
  rw [Int.add_zero] at h
  split at h
  · obtain ⟨hlt, -⟩ := List.getElem?_eq_some_iff.mp (Except.ok.inj h)
    omega
  · omega

theorem ahead_of_move {count : Int} (hlt : c.position < c.source.length) (hcount : 0 < count)
    (h : Returns (move c count) d) : Ahead c d := by
  obtain ⟨_, -, h⟩ := returns_bind h
  rw [returns_pure h]
  exact ahead_advance hlt hcount

theorem ahead_of_expect {wanted : Char} (h : Returns (expect c wanted) (some d)) : Ahead c d := by
  obtain ⟨found, hfound, h⟩ := returns_bind h
  have hpeek := returns_lift hfound
  split at h
  · rename_i hwanted
    subst hwanted
    obtain ⟨next, hnext, h⟩ := returns_bind h
    cases returns_pure h
    exact ahead_of_move (position_lt_of_peek hpeek) Int.one_pos hnext
  · cases returns_pure h

theorem onward_of_skipSpaces (h : Returns (skipSpaces c) d) : Onward c d := by
  fun_induction skipSpaces c with
  | case1 c hend =>
      rw [returns_pure h]
      exact .refl c
  | case2 c hend ih =>
      obtain ⟨char, -, h⟩ := returns_bind h
      split at h
      · obtain ⟨_, -, h⟩ := returns_bind h
        exact (ahead_advance_of_not_atEnd hend).onward.trans (ih h)
      · rw [returns_pure h]
        exact .refl c

theorem onward_of_readDigits {value n : Nat} (h : Returns (readDigits value c) (n, d)) :
    Onward c d := by
  fun_induction readDigits value c with
  | case1 value c ih =>
      obtain ⟨_, -, h⟩ := returns_bind h
      split at h
      · cases returns_pure h
        exact .refl _
      · rename_i hend
        obtain ⟨char, -, h⟩ := returns_bind h
        split at h
        · obtain ⟨again, -, h⟩ := returns_bind h
          obtain ⟨_, -, h⟩ := returns_bind h
          exact (ahead_advance_of_not_atEnd hend).onward.trans (ih hend again h)
        · cases returns_pure h
          exact .refl _

theorem onward_of_readNumber {n : Nat} (h : Returns (readNumber c) (some (n, d))) :
    Onward c d := by
  obtain ⟨⟨value, after⟩, hdigits, h⟩ := returns_bind h
  have hresult := returns_pure h
  split at hresult
  · cases hresult
  · cases hresult
    exact onward_of_readDigits hdigits

theorem onward_of_skipAlignment (h : Returns (skipAlignment c) (.ok d)) : Onward c d := by
  obtain ⟨comma?, hcomma, h⟩ := returns_bind h
  cases comma? with
  | none =>
      cases returns_pure h
      exact .refl _
  | some comma =>
      obtain ⟨gap, hgap, h⟩ := returns_bind h
      obtain ⟨minus?, hminus, h⟩ := returns_bind h
      have hsign : Onward gap (minus?.getD gap) := by
        cases minus? with
        | none => exact .refl _
        | some minus => exact (ahead_of_expect hminus).onward
      obtain ⟨width?, hwidth, h⟩ := returns_bind h
      cases width? with
      | none => cases returns_pure h
      | some width =>
          obtain ⟨last, hlast, h⟩ := returns_bind h
          cases returns_pure h
          have hgap := (ahead_of_expect hcomma).onward.trans (onward_of_skipSpaces hgap)
          have hlast := (onward_of_readNumber hwidth).trans (onward_of_skipSpaces hlast)
          exact hgap.trans (hsign.trans hlast)

theorem onward_of_skipSpecifier (h : Returns (skipSpecifier c) (.ok d)) : Onward c d := by
  fun_induction skipSpecifier c with
  | case1 c hend =>
      cases returns_pure h
      exact .refl _
  | case2 c hend ih =>
      obtain ⟨first, -, h⟩ := returns_bind h
      split at h
      · cases returns_pure h
        exact .refl _
      · obtain ⟨second, -, h⟩ := returns_bind h
        split at h
        · cases returns_pure h
        · obtain ⟨_, -, h⟩ := returns_bind h
          exact (ahead_advance_of_not_atEnd hend).onward.trans (ih h)

theorem onward_of_readSpecifier {specifier : Option String}
    (h : Returns (readSpecifier c) (.ok (specifier, d))) : Onward c d := by
  obtain ⟨colon?, hcolon, h⟩ := returns_bind h
  cases colon? with
  | none =>
      cases returns_pure h
      exact .refl _
  | some colon =>
      obtain ⟨ended, hended, h⟩ := returns_bind h
      cases ended with
      | error stop => cases returns_pure h
      | ok last =>
          dsimp only at h
          split at h
          · cases returns_pure h
          · split at h
            · cases returns_pure h
            · cases returns_pure h
              exact (ahead_of_expect hcolon).onward.trans (onward_of_skipSpecifier hended)

theorem ahead_of_readEnd {index : Nat} {item : Item}
    (h : Returns (readEnd index c) (.ok (item, d))) : Ahead c d := by
  obtain ⟨specified?, hspecified, h⟩ := returns_bind h
  cases specified? with
  | error stop => cases returns_pure h
  | ok specified =>
      obtain ⟨closed?, hclosed, h⟩ := returns_bind h
      cases closed? with
      | none => cases returns_pure h
      | some closed =>
          cases returns_pure h
          exact (onward_of_readSpecifier hspecified).trans_ahead (ahead_of_expect hclosed)

/-- An item gets on at least by the brace that closes it. -/
theorem ahead_of_readItem {item : Item} (h : Returns (readItem c) (.ok (item, d))) :
    Ahead c d := by
  obtain ⟨index?, hindex, h⟩ := returns_bind h
  cases index? with
  | none => cases returns_pure h
  | some index =>
      obtain ⟨gap, hgap, h⟩ := returns_bind h
      obtain ⟨aligned?, haligned, h⟩ := returns_bind h
      cases aligned? with
      | error stop => cases returns_pure h
      | ok aligned =>
          have hgap := (onward_of_readNumber hindex).trans (onward_of_skipSpaces hgap)
          have haligned := hgap.trans (onward_of_skipAlignment haligned)
          exact haligned.trans_ahead (ahead_of_readEnd h)

/-- A segment gets on at least by one character. -/
theorem ahead_of_turn {item? : Option Item} (hend : ¬ c.atEnd = true)
    (h : Returns (turn c) (.next item? d)) : Ahead c d := by
  have hlt := Cursor.lt_of_not_atEnd hend
  obtain ⟨first, -, h⟩ := returns_bind h
  split at h
  · obtain ⟨second, -, h⟩ := returns_bind h
    split at h
    · obtain ⟨after, hafter, h⟩ := returns_bind h
      cases returns_pure h
      exact ahead_of_move hlt (by decide) hafter
    · cases returns_pure h
  · obtain ⟨second, -, h⟩ := returns_bind h
    split at h
    · obtain ⟨after, hafter, h⟩ := returns_bind h
      cases returns_pure h
      exact ahead_of_move hlt (by decide) hafter
    · obtain ⟨inside, hinside, h⟩ := returns_bind h
      obtain ⟨read, hread, h⟩ := returns_bind h
      cases read with
      | error stop => cases returns_pure h
      | ok r =>
          cases returns_pure h
          have hbrace := ahead_of_move hlt Int.one_pos hinside
          exact hbrace.trans_onward (ahead_of_readItem hread).onward
  · obtain ⟨after, hafter, h⟩ := returns_bind h
    cases returns_pure h
    exact ahead_of_move hlt Int.one_pos hafter

end

/-! ## Whole values -/

/-- Reads segments until one of them stops the scan or the value ends. -/
def scanFrom (c : Cursor) (seen : List Sight) :
    Except CursorError ((List Item × Option Stop) × List Sight) :=
  if _hend : c.atEnd = true then .ok (([], none), .tested c :: seen)
  else
    match _hturn : (turn c).run (.tested c :: seen) with
    | .error e => .error e
    | .ok (.stop s, seen) => .ok (([], some s), seen)
    | .ok (.next item? after, seen) =>
        (scanFrom after seen).map fun ((items, stop), seen) => ((item?.toList ++ items, stop), seen)
termination_by (c.source.length - c.position).toNat
decreasing_by
  have hlt := Cursor.lt_of_not_atEnd _hend
  obtain ⟨hsource, hahead⟩ := ahead_of_turn _hend ⟨_, _, _hturn⟩
  rw [hsource]
  omega

/-- Scans a value from its first character. -/
def scan (value : String) : Walk Scan := fun seen =>
  (scanFrom ⟨value.toList, 0⟩ seen).map fun ((items, stop), seen) =>
    (⟨items, stop.map Stop.error⟩, seen)

end Walk

end ResourceAudit.Format
