import ResourceAudit.Markup.Codec
import ResourceAudit.Markup.Document

/-!
# Encodings

Turns the bytes of a document into characters and reads it. The first bytes
tell UTF-16 from the encodings in which ASCII is one byte; the XML declaration
then names the encoding of what follows it. What it names is known here, or is
looked up among the codecs.

Bytes that make up no character are read as U+0000, which no document may hold.
-/

namespace ResourceAudit.Markup

/-- The encodings that are known by name. -/
inductive Encoding
  | utf8
  | utf16 (bigEndian : Bool)
  | latin1
  | ascii
deriving DecidableEq, Repr

/-- What the rest of a document is decoded by. -/
inductive Decoder
  | known (encoding : Encoding)
  | table (charOf : ByteTable)

/-- How decoding ended. -/
inductive Ending
  | complete
  /-- Within a character. -/
  | partialCharacter
  /-- With half a code unit. -/
  | strayByte
deriving DecidableEq, Repr

structure Decoded where
  chars : List Char
  ending : Ending
deriving DecidableEq, Repr

namespace Decoded

def cons (c : Char) (d : Decoded) : Decoded :=
  { d with chars := c :: d.chars }

end Decoded

namespace Encoding

/-- Stands for bytes that are no character. -/
def noCharacter : Char := '\x00'

def charOf (code : Nat) : Char :=
  if code.isValidChar then Char.ofNat code else noCharacter

def isContinuation (b : UInt8) : Bool :=
  0x80 ≤ b && b < 0xC0

/-- The character of a sequence of bytes, given the bits of the first one and
the smallest code point that needs so many bytes. -/
def multibyte (head : Nat) (tail : List UInt8) (least : Nat) : Char :=
  let code := tail.foldl (fun n b => n * 64 + (b.toNat - 0x80)) head
  if tail.all isContinuation && least ≤ code then charOf code else noCharacter

/-- UTF-8, in which the first byte of a character tells its length. -/
def decodeUtf8 : List UInt8 → Decoded
  | [] => ⟨[], .complete⟩
  | a :: rest =>
      if a < 0x80 then (decodeUtf8 rest).cons (charOf a.toNat)
      else if a < 0xC0 then (decodeUtf8 rest).cons noCharacter
      else if a < 0xE0 then
        match rest with
        | b :: rest => (decodeUtf8 rest).cons (multibyte (a.toNat - 0xC0) [b] 0x80)
        | [] => ⟨[], .partialCharacter⟩
      else if a < 0xF0 then
        match rest with
        | b :: c :: rest => (decodeUtf8 rest).cons (multibyte (a.toNat - 0xE0) [b, c] 0x800)
        | _ => ⟨[], .partialCharacter⟩
      else if a < 0xF8 then
        match rest with
        | b :: c :: d :: rest =>
            (decodeUtf8 rest).cons (multibyte (a.toNat - 0xF0) [b, c, d] 0x10000)
        | _ => ⟨[], .partialCharacter⟩
      else (decodeUtf8 rest).cons noCharacter

/-- UTF-16, in which two surrogates make up one character. -/
def decodeUtf16 (bigEndian : Bool) : List UInt8 → Decoded
  | [] => ⟨[], .complete⟩
  | [_] => ⟨[], .strayByte⟩
  | a :: b :: rest =>
      let unit := codeUnit a b
      if 0xD800 ≤ unit ∧ unit < 0xDC00 then
        match rest with
        | c :: d :: rest =>
            let low := codeUnit c d
            let char :=
              if 0xDC00 ≤ low ∧ low < 0xE000 then
                charOf (0x10000 + (unit - 0xD800) * 0x400 + (low - 0xDC00))
              else noCharacter
            (decodeUtf16 bigEndian rest).cons char
        | _ => ⟨[], .partialCharacter⟩
      else (decodeUtf16 bigEndian rest).cons (charOf unit)
where
  codeUnit (a b : UInt8) : Nat :=
    if bigEndian then a.toNat * 256 + b.toNat else b.toNat * 256 + a.toNat

def decode (encoding : Encoding) (bytes : List UInt8) : Decoded :=
  match encoding with
  | utf8 => decodeUtf8 bytes
  | utf16 bigEndian => decodeUtf16 bigEndian bytes
  | latin1 => ⟨bytes.map fun b => charOf b.toNat, .complete⟩
  | ascii => ⟨bytes.map fun b => if b < 0x80 then charOf b.toNat else noCharacter, .complete⟩

/-- The encoding that the first bytes show, and the number of bytes of a byte
order mark. Bytes that show nothing are UTF-8. -/
def detect : List UInt8 → Encoding × Nat
  | 0xFE :: 0xFF :: _ => (utf16 true, 2)
  | 0xFF :: 0xFE :: _ => (utf16 false, 2)
  | 0xEF :: 0xBB :: 0xBF :: _ => (utf8, 3)
  | 0x00 :: _ :: _ => (utf16 true, 0)
  | _ :: 0x00 :: _ => (utf16 false, 0)
  | _ => (utf8, 0)

/-- A document of one of these bytes alone could still become a byte order
mark or UTF-16. -/
def isUndecided : List UInt8 → Bool
  | [b] => b == 0xFE || b == 0xFF || b == 0xEF || b == 0x00
  | [0xEF, 0xBB] => true
  | _ => false

/-- How many bytes ASCII characters take. -/
def asciiBytes : Encoding → Nat
  | utf16 _ => 2
  | _ => 1

/-- The known encoding of a name, in any case of its letters. Without a byte order
in its name, UTF-16 has that of the declaration if `current` is UTF-16. -/
def known? (current : Encoding) (name : String) : Option Encoding :=
  let lower := name.toLower
  if lower = "utf-8" then some utf8
  else if lower = "iso-8859-1" then some latin1
  else if lower = "us-ascii" then some ascii
  else if lower = "utf-16" then
    if current.asciiBytes = 2 then some current else some (utf16 true)
  else if lower = "utf-16be" then some (utf16 true)
  else if lower = "utf-16le" then some (utf16 false)
  else none

/-- What a document is decoded by after it has declared a name in the encoding `current`. -/
def named (codecs : Codecs) (current : Encoding) (name : String) :
    Except Failure (Except Fault Decoder) :=
  match current.known? name with
  | some encoding =>
      if encoding = current ∨ (encoding.asciiBytes = 1 ∧ current.asciiBytes = 1) then
        .ok (.ok (.known encoding))
      else .ok (.error .incorrectEncoding)
  | none => ((codecs name).resolve name).map fun found => found.map .table

end Encoding

def Decoder.decode (decoder : Decoder) (bytes : List UInt8) : Decoded :=
  match decoder with
  | known encoding => encoding.decode bytes
  | table charOf => ⟨bytes.map fun b => (charOf b).getD Encoding.noCharacter, .complete⟩

/-- A document as it comes: as text, whose declared encoding means nothing, or
as bytes. -/
inductive Source
  | text (s : String)
  | bytes (b : List UInt8)
deriving DecidableEq, Repr

namespace Source

def toBytes : Source → List UInt8
  | text s => s.toUTF8.toList
  | bytes b => b

/-- A text that ends within a character, or within half of one, ends otherwise
than the document seems to. -/
def withEnding (ending : Ending) (outcome : Except Fault Node) : Except Fault Node :=
  match ending, outcome with
  | .complete, _ => outcome
  | .partialCharacter, .ok _ => .error .partialCharacter
  | .partialCharacter, .error .noElement => .error .partialCharacter
  | .partialCharacter, .error .unclosedToken => .error .partialCharacter
  | .partialCharacter, .error .unclosedCData => .error .partialCharacter
  | .strayByte, .ok _ => .error .unclosedToken
  | .strayByte, .error .noElement => .error .unclosedToken
  | _, _ => outcome

/-- The encoding that the first bytes of a document show, and what follows a byte order
mark. -/
def opening (source : Source) : Encoding × List UInt8 :=
  let (initial, marked) := Encoding.detect source.toBytes
  (initial, source.toBytes.drop marked)

/-- The encoding that a declaration names. That of a text means nothing. -/
def names? : Source → XmlDeclaration → Option String
  | text _, _ => none
  | bytes _, declaration => declaration.encoding

/-- The encoding that a document names. -/
def declared? (source : Source) : Option String :=
  if Encoding.isUndecided source.toBytes then none
  else
    let (initial, body) := source.opening
    match XmlDeclaration.read (initial.decode body).chars with
    | .ok ⟨some declaration, _, _, _⟩ => source.names? declaration
    | _ => none

/-- What a document is decoded by after its declaration. -/
def decoderAfter (codecs : Codecs) (source : Source) (declaration : XmlDeclaration) :
    Except Failure (Except Fault Decoder) :=
  let (initial, _) := source.opening
  match source.names? declaration with
  | some name => initial.named codecs name
  | none => .ok (.ok (.known initial))

/-- The tree of what follows the declaration, or of all of it if there is none. -/
def read (decoder : Decoder) (standalone : Bool) (bytes : List UInt8) : Except Fault Node :=
  let decoded := decoder.decode bytes
  withEnding decoded.ending ((Document.read standalone).run (normalizeLines decoded.chars))

/-- The tree of a document. -/
def parse (codecs : Codecs) (source : Source) : Except Failure (Except Fault Node) :=
  if Encoding.isUndecided source.toBytes then .ok (.error .unclosedToken)
  else
    let (initial, body) := source.opening
    let decoded := initial.decode body
    match XmlDeclaration.read decoded.chars with
    | .error fault => .ok (withEnding decoded.ending (.error fault))
    | .ok ⟨none, _, _, _⟩ => .ok (read (.known initial) false body)
    | .ok ⟨some declaration, rest, _, _⟩ =>
        let declared := (decoded.chars.length - rest.length) * initial.asciiBytes
        (source.decoderAfter codecs declaration).map fun found =>
          found.bind fun decoder => read decoder declaration.standalone (body.drop declared)

end Source

end ResourceAudit.Markup
