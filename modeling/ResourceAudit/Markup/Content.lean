import ResourceAudit.Markup.Tag
import ResourceAudit.Markup.Token

/-!
# Content

Builds the tree of a document from tags, text and references. The text of an
entity is read in place of a reference to it, and must close exactly the
elements it opens.
-/

namespace ResourceAudit.Markup

/-- A tree being built: the open elements, innermost first, and the root once it
is closed. -/
structure Builder where
  frames : List Frame
  root : Option Node
deriving Repr

namespace Builder

def empty : Builder := ⟨[], none⟩

def scope (b : Builder) : Scope :=
  match b.frames with
  | [] => .initial
  | frame :: _ => frame.scope

/-- Adds a node to the innermost open element. A node without an element around
it is the root. -/
def add (b : Builder) (node : Node) : Builder :=
  match b.frames with
  | [] => ⟨[], some node⟩
  | frame :: rest => { b with frames := { frame with children := node :: frame.children } :: rest }

def addText (b : Builder) (cs : List Char) : Builder :=
  b.add (.text (String.ofList cs))

/-- Opens an element, and closes it if its tag does. -/
def enter (b : Builder) (d : Declarations) (tag : StartTag) : Except Fault Builder := do
  let frame ← tag.toFrame d b.scope
  if tag.closed then return b.add frame.node
  else return { b with frames := frame :: b.frames }

/-- Whether more elements are open than a number of outer ones. -/
def isDeeperThan (b : Builder) (depth : Nat) : Bool :=
  !(b.frames.drop depth).isEmpty

/-- Closes the innermost element, whose name must be repeated. -/
def leave (b : Builder) (written : String) : Except Fault Builder :=
  match b.frames with
  | [] => .error .invalidToken
  | frame :: rest =>
      if frame.written = written then .ok ({ b with frames := rest }.add frame.node)
      else .error .mismatchedTag

end Builder

namespace Content

/-- An end tag after its slash: the name as written. -/
def readEndTag : Reader String := do
  let first ← Reader.next
  if !isNameStart first then Reader.fail .invalidToken
  let written := first :: (← Reader.takeWhile fun c => isNameChar c || c == ':')
  let _ ← Reader.skipSeparators
  Reader.expect '>'
  return String.ofList written

/-- What opens a section of literal text, after `<![`. -/
def sectionStart : List Char := "CDATA[".toList

/-- A section of literal text after `<![`. -/
def readSection : Reader (List Char) := do
  if !(← Reader.holds sectionStart.length) then Reader.fail .unclosedToken
  for c in sectionStart do
    Reader.expect c
  Reader.upTo [']', ']', '>'] .unclosedCData

/-- A stretch of text without markup. -/
def readText : Reader (List Char) := do
  if ← Reader.sees [']', ']', '>'] then Reader.fail .invalidToken
  let c ← Reader.next
  if c = ']' then return [c]
  else return c :: (← Reader.takeWhile fun c =>
    c ≠ '<' && c ≠ '&' && c ≠ ']' && isDocumentChar c)

/-- How deeply the elements are nested around the text that is read: an end tag
for one of them belongs to no entity. -/
abbrev Floor := Nat

/-- What follows `<` in content. -/
def readMarkup (d : Declarations) (floor : Floor) (b : Builder) : Reader Builder := do
  let c ← Reader.next
  if c = '/' then
    let written ← readEndTag
    if !b.isDeeperThan floor then Reader.fail .asynchronousEntity
    Reader.lift (b.leave written)
  else if c = '!' then
    let c ← Reader.next
    if c = '-' then
      Token.readComment
      return b
    else if c = '[' then return b.addText (← readSection)
    else Reader.fail .invalidToken
  else if c = '?' then
    if (← Token.readInstruction).isXmlDeclaration then Reader.fail .misplacedDeclaration
    return b
  else if isNameStart c then Reader.lift (b.enter d (← StartTag.read c))
  else Reader.fail .invalidToken

/-- Adds what a reference stands for. -/
def dereference (d : Declarations) (opened : List String)
    (expand : Builder → String → List Char → Except Fault Builder) (b : Builder) :
    Piece → Except Fault Builder
  | .character c => .ok (b.addText [c])
  | .numeric (some c) => .ok (b.addText [c])
  | .numeric none => .error .badCharacterReference
  | .entity name =>
      match Piece.predefined? name with
      | some c => .ok (b.addText [c])
      | none => do
          match ← d.resolve opened name with
          | .text name text => expand b name text
          | .external name => .error (.unreachableEntity name)
          | .skipped name => .error (.unreachableEntity name)

/-- One step of reading content: a tag, a stretch of text, or a reference. The
content ends with the text, or with the root element. -/
def step (d : Declarations) (opened : List String) (floor : Floor)
    (expand : Builder → String → List Char → Except Fault Builder) (b : Builder) :
    Reader (Builder ⊕ Builder) := do
  if b.root.isSome then return .inr b
  if ← Reader.atEnd then return .inr b
  let c ← Reader.peek
  if c = '<' then
    let _ ← Reader.next
    return .inl (← readMarkup d floor b)
  else if c = '&' then
    let _ ← Reader.next
    return .inl (← Reader.lift (dereference d opened expand b (← Piece.readReference)))
  else return .inl (b.addText (← readText))

/-- Reads the text of an entity into the elements around a reference to it. -/
def within (d : Declarations) : Nat → List String → Builder → String → List Char →
    Except Fault Builder
  | 0, _, _, _, _ => .error .recursiveEntity
  | depth + 1, opened, b, name, text => do
      let opened := name :: opened
      let floor := b.frames.length
      let read := Reader.loop (step d opened floor (within d depth opened)) b
      let b ← read.run (normalizeLines text)
      if b.frames.length = floor then return b else throw .asynchronousEntity

/-- Reads content until the root is closed or the text ends. -/
def read (d : Declarations) (b : Builder) : Reader Builder :=
  Reader.loop (step d [] 0 (within d d.entities.length [])) b

end Content

end ResourceAudit.Markup
