import ResourceAudit.Text.Pieces

/-!
# Cursors

A position in a text. Moving a cursor yields another cursor and never passes
the end of the text. A position below zero counts from the end, so the last
character stands at -1; only a position before the first character has no
character to read.
-/

namespace ResourceAudit.Text

structure Cursor where
  source : List Char
  position : Int
deriving DecidableEq, Repr

/-- Why a character cannot be read. -/
inductive CursorError
  | endOfText (position : Int)
  | beforeStart
deriving DecidableEq, Repr

namespace Cursor

def atEnd (c : Cursor) : Bool :=
  (c.source.length : Int) ≤ c.position

/-- The character at a position, none past the end of the text. -/
def charAt (c : Cursor) (position : Int) : Except CursorError (Option Char) :=
  if 0 ≤ position then .ok c.source[position.toNat]?
  else if -(c.source.length : Int) ≤ position then
    .ok c.source[(position + c.source.length).toNat]?
  else .error .beforeStart

/-- The character under the cursor. -/
def current (c : Cursor) : Except CursorError Char := do
  if c.atEnd then throw (.endOfText c.position)
  match ← c.charAt c.position with
  | some char => return char
  | none => throw (.endOfText c.position)

/-- The character some way ahead, none past the end. -/
def peek (c : Cursor) (ahead : Int) : Except CursorError (Option Char) :=
  c.charAt (c.position + ahead)

/-- Moves by a number of characters, stopping at the end of the text. -/
def advance (c : Cursor) (count : Int) : Cursor :=
  { c with position := min (c.position + count) c.source.length }

/-- The text from the cursor to a position. -/
def sliceTo (c : Cursor) (stop : Int) : List Char :=
  slice c.position stop c.source

theorem lt_of_not_atEnd {c : Cursor} (h : ¬ c.atEnd = true) :
    c.position < c.source.length := by
  simpa [atEnd] using h

/-- Moves past U+0020; other blanks stay. -/
def skipSpaces (c : Cursor) : Except CursorError Cursor :=
  if _ : c.atEnd = true then .ok c else
    match c.current with
    | .error e => .error e
    | .ok char => if char = ' ' then (c.advance 1).skipSpaces else .ok c
termination_by (c.source.length - c.position).toNat
decreasing_by
  have := lt_of_not_atEnd ‹_›
  simp only [advance]
  omega

/-- Consumes a text of one character if it is next. -/
def expect (c : Cursor) (wanted : String) : Except CursorError (Option Cursor) := do
  match ← c.peek 0 with
  | some char => return if wanted.toList = [char] then some (c.advance 1) else none
  | none => return none

end Cursor

end ResourceAudit.Text
