import ResourceAudit.Failure
import ResourceAudit.Markup.Fault

/-!
# Codecs

A few encodings are known by name. For every other name that a document declares
there is a question to be asked from outside: which character each single byte is.
Markup must be written in the bytes of ASCII, or the answer is of no use.
-/

namespace ResourceAudit.Markup

/-- The character of each byte, where it is one. -/
abbrev ByteTable := UInt8 → Option Char

/-- What is known of the codec of a name. -/
inductive Codec
  /-- There is none. -/
  | unknown
  /-- It is none of text. -/
  | notText
  /-- Its characters are not one byte each. -/
  | multibyte
  /-- It fails for a reason of its own. -/
  | failing (reason : String)
  | table (charOf : ByteTable)

/-- How codecs are found by name. -/
abbrev Codecs := String → Codec

namespace ByteTable

/-- The ASCII characters that mean something in markup or may stand in names. -/
def isMarkup (c : Char) : Bool :=
  c == '\t' || c == '\n' || c == '\r' ||
    (' ' ≤ c && c ≤ '|' && !(['$', '@', '\\', '^', '\x60', '\x7b'].contains c))

/-- Whether a byte is what it should be for markup to be found: itself if it is markup in
ASCII, and no other markup. -/
def keepsByte (charOf : ByteTable) (b : UInt8) : Bool :=
  (!isMarkup (Char.ofNat b.toNat) || charOf b == some (Char.ofNat b.toNat)) &&
    (charOf b).all fun c => c.toNat ≤ 0xFFFF && (!isMarkup c || c.toNat == b.toNat)

/-- Whether markup is written in the bytes of ASCII. -/
def keepsMarkup (charOf : ByteTable) : Bool :=
  (List.range 256).all fun n => charOf.keepsByte (UInt8.ofNat n)

end ByteTable

namespace Codec

/-- What comes of declaring a name with this codec: a failure, a fault of the document, or a
table to read it by. -/
def resolve (name : String) : Codec → Except Failure (Except Fault ByteTable)
  | unknown => .error (.unknownEncoding name)
  | notText => .error (.notTextEncoding name)
  | multibyte => .error .multibyteEncoding
  | failing reason => .error (.codecFailed reason)
  | table charOf => .ok (if charOf.keepsMarkup then .ok charOf else .error .unusableEncoding)

end Codec

end ResourceAudit.Markup
