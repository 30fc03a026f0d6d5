/-!
# Quoted text

Text between double quotes as JSON writes it. A quote, a backslash and the
control characters below U+0020 are escaped, and every other character is
written as it is.
-/

namespace ResourceAudit.Quoted

/-- The lower-case hexadecimal digit of a number below sixteen. -/
def hexDigit (n : Nat) : Char :=
  if n < 10 then Char.ofNat (48 + n) else Char.ofNat (87 + n)

def escape (c : Char) : List Char :=
  if c = '"' then ['\\', '"']
  else if c = '\\' then ['\\', '\\']
  else if c = '\n' then ['\\', 'n']
  else if c = '\r' then ['\\', 'r']
  else if c = '\t' then ['\\', 't']
  else if c = '\x08' then ['\\', 'b']
  else if c = '\x0c' then ['\\', 'f']
  else if c.toNat < 0x20 then
    ['\\', 'u', '0', '0', hexDigit (c.toNat / 16), hexDigit (c.toNat % 16)]
  else [c]

/-- The escaped characters of a text, without the quotes around them. -/
def body (cs : List Char) : List Char :=
  cs.flatMap escape

def encode (s : String) : String :=
  String.ofList ('"' :: body s.toList ++ ['"'])

end ResourceAudit.Quoted
