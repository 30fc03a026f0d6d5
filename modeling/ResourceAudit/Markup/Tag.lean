import ResourceAudit.Markup.Namespace
import ResourceAudit.Markup.Node

/-!
# Tags

Reads start tags, and turns a start tag into the element that it opens: the
attribute values are evaluated, the defaults added, the namespaces bound and
the names resolved, in that order.
-/

namespace ResourceAudit.Markup

/-- A start tag as it is written. -/
structure StartTag where
  name : QName
  attributes : List (QName × List Piece)
  /-- Whether the tag closes its element at once. -/
  closed : Bool
deriving Repr

/-- An element whose end tag has not been read. -/
structure Frame where
  /-- The name as written, which the end tag has to repeat. -/
  written : String
  tag : String
  attributes : List (String × String)
  scope : Scope
  /-- The children read so far, the last one first. -/
  children : List Node
deriving Repr

def Frame.node (f : Frame) : Node :=
  .element f.tag f.attributes f.children.reverse

namespace StartTag

/-- A name with an optional prefix, whose first character has been read. -/
def readQName (first : Char) : Reader QName := do
  let head ← Reader.nameFrom first
  if ← Reader.sees [':'] then
    let _ ← Reader.next
    return ⟨head, ← Reader.name⟩
  return ⟨"", head⟩

/-- An attribute, whose first character has been read. -/
def readAttribute (first : Char) : Reader (QName × List Piece) := do
  let name ← readQName first
  let _ ← Reader.skipSeparators
  Reader.expect '='
  let _ ← Reader.skipSeparators
  let quote ← Reader.next
  if quote ≠ '"' ∧ quote ≠ '\'' then Reader.fail .invalidToken
  return (name, ← Piece.readQuoted quote)

/-- The attributes of a tag and its end. Separators must precede an
attribute. -/
def readAttributes : Reader (List (QName × List Piece) × Bool) :=
  Reader.loop step []
where
  step (found : List (QName × List Piece)) :
      Reader (List (QName × List Piece) ⊕ (List (QName × List Piece) × Bool)) := do
    let separated ← Reader.skipSeparators
    let c ← Reader.next
    if c = '>' then return .inr (found.reverse, false)
    else if c = '/' then
      Reader.expect '>'
      return .inr (found.reverse, true)
    else if separated && isNameStart c then return .inl ((← readAttribute c) :: found)
    else Reader.fail .invalidToken

/-- A start tag, whose first name character has been read. -/
def read (first : Char) : Reader StartTag := do
  let name ← readQName first
  let (attributes, closed) ← readAttributes
  return ⟨name, attributes, closed⟩

/-- The attributes with their values, each with the scope widened by the
namespace declarations up to it. An attribute must not be repeated. -/
def evaluate (d : Declarations) (element : String) (scope : Scope) :
    List String → List (QName × List Piece) → Except Fault (List (QName × String) × Scope)
  | _, [] => .ok ([], scope)
  | seen, (name, pieces) :: rest => do
      if seen.contains name.written then throw .duplicateAttribute
      let value := String.ofList (← d.attributeValue (d.isTokenized element name) pieces)
      match name.boundPrefix? with
      | some bound =>
          evaluate d element (← scope.bind bound value) (name.written :: seen) rest
      | none =>
          let (others, scope) ← evaluate d element scope (name.written :: seen) rest
          return ((name, value) :: others, scope)

/-- Adds the defaults of the attributes that a tag leaves out. -/
def addDefaults (written : List String) (scope : Scope) :
    List (QName × List Char) → Except Fault (List (QName × String) × Scope)
  | [] => .ok ([], scope)
  | (name, value) :: rest =>
      if written.contains name.written then addDefaults written scope rest
      else do
        let value := String.ofList value
        let written := name.written :: written
        match name.boundPrefix? with
        | some bound => addDefaults written (← scope.bind bound value) rest
        | none =>
            let (others, scope) ← addDefaults written scope rest
            return ((name, value) :: others, scope)

/-- Resolves the names of attributes. Two prefixes must not lead to one
name. -/
def resolveNames (scope : Scope) :
    List String → List (QName × String) → Except Fault (List (String × String))
  | _, [] => .ok []
  | seen, (name, value) :: rest => do
      let resolved ← scope.attributeName name
      if name.qualifier ≠ "" ∧ seen.contains resolved then throw .duplicateAttribute
      return (resolved, value) :: (← resolveNames scope (resolved :: seen) rest)

/-- The element that a start tag opens in a scope. -/
def toFrame (d : Declarations) (scope : Scope) (tag : StartTag) : Except Fault Frame := do
  let element := tag.name.written
  let (given, scope) ← evaluate d element scope [] tag.attributes
  let (added, scope) ← addDefaults (tag.attributes.map (·.1.written)) scope (d.defaults element)
  let attributes ← resolveNames scope [] (given ++ added)
  return ⟨element, ← scope.elementName tag.name, attributes, scope, []⟩

end StartTag

end ResourceAudit.Markup
