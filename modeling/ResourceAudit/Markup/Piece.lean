import ResourceAudit.Markup.Reader

/-!
# References

A piece of text is a character or a reference. A character reference gives a
code point in decimal or hexadecimal digits; an entity reference gives a name,
and five names stand for a character in every document.
-/

namespace ResourceAudit.Markup

inductive Piece
  | character (c : Char)
  /-- A character reference; none if it refers to no character of a document. -/
  | numeric (c : Option Char)
  | entity (name : String)
deriving DecidableEq, Repr

namespace Piece

/-- The character that a name stands for in every document. -/
def predefined? (name : String) : Option Char :=
  if name = "lt" then some '<'
  else if name = "gt" then some '>'
  else if name = "amp" then some '&'
  else if name = "quot" then some '"'
  else if name = "apos" then some '\''
  else none

/-- Exclusive upper bound of code points. -/
def codeBound : Nat := 0x110000

/-- The code point of a digit run; anything beyond the last is none. -/
def codeOf? (radix : Nat) (digits : List Nat) : Option Nat :=
  let code := digits.foldl (fun n d => if n < codeBound then radix * n + d else n) 0
  if code < codeBound then some code else none

/-- A character reference after its number sign. -/
def readNumeric : Reader Piece := do
  let hexadecimal := (← Reader.peek) == 'x'
  if hexadecimal then
    let _ ← Reader.next
  let isDigit (c : Char) : Bool := if hexadecimal then (hexValue? c).isSome else c.isDigit
  let first ← Reader.next
  if !isDigit first then Reader.fail .invalidToken
  let digits := first :: (← Reader.takeWhile isDigit)
  Reader.expect ';'
  let code := codeOf? (if hexadecimal then 16 else 10) (digits.filterMap hexValue?)
  return numeric (code.bind characterOf?)

/-- A reference after its ampersand. -/
def readReference : Reader Piece := do
  let c ← Reader.next
  if c = '#' then readNumeric
  else
    let name ← Reader.nameFrom c
    Reader.expect ';'
    return entity name

/-- A character or a reference. -/
def read : Reader Piece := do
  let c ← Reader.next
  if c = '&' then readReference else return character c

/-- The pieces of an attribute value up to its closing quote. -/
def readQuoted (quote : Char) : Reader (List Piece) :=
  Reader.loop step []
where
  step (found : List Piece) : Reader (List Piece ⊕ List Piece) := do
    let c ← Reader.peek
    if c = quote then
      let _ ← Reader.next
      return .inr found.reverse
    else if c = '<' then Reader.fail .invalidToken
    else return .inl ((← read) :: found)

/-- The pieces of a whole text that takes the place of a reference in an
attribute value. -/
def readAll : Reader (List Piece) :=
  Reader.loop step []
where
  step (found : List Piece) : Reader (List Piece ⊕ List Piece) := do
    if ← Reader.atEnd then return .inr found.reverse
    else if (← Reader.peek) = '<' then Reader.fail .invalidToken
    else return .inl ((← read) :: found)

/-- The pieces of a text within an attribute value, where a reference that is
cut off is as bad as a malformed one. -/
def ofText (text : List Char) : Except Fault (List Piece) :=
  match readAll.run (normalizeLines text) with
  | .error .unclosedToken => .error .invalidToken
  | outcome => outcome

end Piece

end ResourceAudit.Markup
