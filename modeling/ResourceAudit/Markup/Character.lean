import ResourceAudit.Markup.NameRanges
import ResourceAudit.Text.Word

/-!
# Characters of a document

Which characters a document may hold, which separate its tokens, and which make
up its names. Line ends are line feeds once a document is read.
-/

namespace ResourceAudit.Markup

/-- A character a document may hold. -/
def isDocumentChar (c : Char) : Bool :=
  c == '\t' || c == '\n' || c == '\r' ||
    (0x20 ≤ c.toNat && c.toNat ≠ 0xFFFE && c.toNat ≠ 0xFFFF)

/-- A blank between tokens. -/
def isSeparator (c : Char) : Bool :=
  c == ' ' || c == '\t' || c == '\n' || c == '\r'

/-- A character a name may begin with. The colon is no part of a simple name. -/
def isNameStart (c : Char) : Bool :=
  c.isAlpha || c == '_' || Text.inRanges letterRanges c.toNat

/-- A character of a simple name. -/
def isNameChar (c : Char) : Bool :=
  isNameStart c || c.isDigit || c == '-' || c == '.' || Text.inRanges followerRanges c.toNat

/-- Ends every line with one line feed. -/
def normalizeLines : List Char → List Char
  | [] => []
  | '\r' :: '\n' :: rest => '\n' :: normalizeLines rest
  | '\r' :: rest => '\n' :: normalizeLines rest
  | c :: rest => c :: normalizeLines rest

/-- The value of a hexadecimal digit. -/
def hexValue? (c : Char) : Option Nat :=
  if c.isDigit then some (c.toNat - 48)
  else if 'a' ≤ c ∧ c ≤ 'f' then some (c.toNat - 87)
  else if 'A' ≤ c ∧ c ≤ 'F' then some (c.toNat - 55)
  else none

/-- The character of a code point that a document may hold. -/
def characterOf? (code : Nat) : Option Char :=
  if code.isValidChar ∧ isDocumentChar (Char.ofNat code) then some (Char.ofNat code) else none

end ResourceAudit.Markup
