import ResourceAudit.Markup.Codec
import ResourceAudit.Markup.CodecTables
import ResourceAudit.Text.Words

/-!
# The registry of codecs

Finds the codec of a name among those that are at hand.
-/

namespace ResourceAudit.Markup.Registry

def aliases : List (String × String) := Text.mappingOf aliasLines

/-- Names differ neither in the case of their letters nor in what stands between their parts. -/
def normalize (name : String) : String :=
  let spelled := name.toList.map fun c =>
    if c.isAlphanum || c == '.' then c.toLower else '_'
  String.intercalate "_" ((Text.splitAt '_' (String.ofList spelled)).filter (· ≠ ""))

/-- The codec that a normalized name is another name of. -/
def alias? (name : String) : Option String :=
  let undotted := String.ofList (name.toList.map fun c => if c = '.' then '_' else c)
  (aliases.lookup name).or (aliases.lookup undotted)

/-- The character of the same number. -/
def sameNumber (b : UInt8) : Char := Char.ofNat b.toNat

def asciiTable : ByteTable := fun b =>
  if b < 0x80 then some (sameNumber b) else none

def latinTable : ByteTable := fun b => some (sameNumber b)

/-- In HZ a tilde begins something else than a character. -/
def hzTable : ByteTable := fun b => if b = 0x7E then none else asciiTable b

/-- The table of characters that differ from the numbers of bytes from some byte on. -/
def tableFrom (first : Nat) (chars : List Char) : ByteTable := fun b =>
  if b.toNat < first then some (sameNumber b)
  else (chars[b.toNat - first]?).filter (· ≠ '\uFFFD')

/-- No table of these codecs is of use, whichever it is. -/
def foreignTable : ByteTable := fun _ => none

/-- The codec of a canonical name. -/
def find (name : String) : Codec :=
  if (Text.wordsOf asciiLines).contains name then .table asciiTable
  else if (Text.wordsOf latinLines).contains name then .table latinTable
  else if name = "hz" then .table hzTable
  else if (Text.wordsOf multibyteLines).contains name then .multibyte
  else if (Text.wordsOf notTextLines).contains name then .notText
  else if (Text.wordsOf foreignLines).contains name then .table foreignTable
  else if name = "idna" then .failing "Unsupported error handling replace"
  else if name = "undefined" then .failing "undefined encoding"
  else if name = "punycode" then
    .failing ("'ascii' codec can't decode byte 0x80 in position 82: " ++
      "ordinal not in range(128)")
  else match tables.lookup name with
    | some (first, lines) => .table (tableFrom first (String.join lines).toList)
    | none => .unknown

/-- The codec of a name, under the name it is an alias of if there is one of that name. -/
def codec : Codecs := fun name =>
  let name := normalize name
  find ((alias? name).getD name)

end ResourceAudit.Markup.Registry
