/-!
# Faults of a document

Why a document is not well formed.
-/

namespace ResourceAudit.Markup

inductive Fault
  | noElement
  | syntaxError
  | invalidToken
  | unclosedToken
  | unclosedCData
  | partialCharacter
  | mismatchedTag
  | duplicateAttribute
  | junkAfterDocument
  | undefinedEntity
  /-- A reference to an entity that may be declared outside the document. -/
  | unreachableEntity (name : String)
  | recursiveEntity
  | asynchronousEntity
  | binaryEntity
  | externalEntityInAttribute
  | illegalParameterReference
  | badCharacterReference
  | badPublicId
  | misplacedDeclaration
  | malformedDeclaration
  | incorrectEncoding
  /-- Of a declared encoding in which markup would be written in other bytes. -/
  | unusableEncoding
  | unboundPrefix
  | undeclaredPrefix
  | reservedXmlPrefix
  | reservedXmlnsPrefix
  | reservedNamespace
deriving DecidableEq, Repr

def Fault.message : Fault → String
  | noElement => "no element found"
  | syntaxError => "syntax error"
  | invalidToken => "not well-formed (invalid token)"
  | unclosedToken => "unclosed token"
  | unclosedCData => "unclosed CDATA section"
  | partialCharacter => "partial character"
  | mismatchedTag => "mismatched tag"
  | duplicateAttribute => "duplicate attribute"
  | junkAfterDocument => "junk after document element"
  | undefinedEntity => "undefined entity"
  | unreachableEntity name => s!"undefined entity &{name};"
  | recursiveEntity => "recursive entity reference"
  | asynchronousEntity => "asynchronous entity"
  | binaryEntity => "reference to binary entity"
  | externalEntityInAttribute => "reference to external entity in attribute"
  | illegalParameterReference => "illegal parameter entity reference"
  | badCharacterReference => "reference to invalid character number"
  | badPublicId => "illegal character(s) in public id"
  | misplacedDeclaration => "XML or text declaration not at start of entity"
  | malformedDeclaration => "XML declaration not well-formed"
  | incorrectEncoding => "encoding specified in XML declaration is incorrect"
  | unusableEncoding => "unknown encoding"
  | unboundPrefix => "unbound prefix"
  | undeclaredPrefix => "must not undeclare prefix"
  | reservedXmlPrefix =>
      "reserved prefix (xml) must not be undeclared or bound to another namespace name"
  | reservedXmlnsPrefix => "reserved prefix (xmlns) must not be declared or undeclared"
  | reservedNamespace => "prefix must not be bound to one of the reserved namespace names"

/-- The message with a line and a column. -/
def Fault.messageAt (fault : Fault) (position : Nat × Nat) : String :=
  s!"{fault.message}: line {position.1}, column {position.2}"

end ResourceAudit.Markup
