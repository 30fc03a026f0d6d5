import ResourceAudit.Markup.Declarations

/-!
# Namespaces

The prefixes in force at an element, and the names that elements and attributes
have once their prefixes are resolved. The empty prefix is the default
namespace, which applies to elements only.
-/

namespace ResourceAudit.Markup

/-- Prefixes and the namespaces they stand for, innermost first. -/
abbrev Scope := List (String × String)

namespace Scope

def xmlNamespace : String := "http://www.w3.org/XML/1998/namespace"

def xmlnsNamespace : String := "http://www.w3.org/2000/xmlns/"

/-- The prefix `xml` is bound in every document. -/
def initial : Scope := [("xml", xmlNamespace)]

/-- Characters that may stand in the address of a namespace although they
delimit names in a tree. -/
def delimiter : Char := '}'

/-- Binds a prefix. A prefix cannot be unbound again, and the two reserved
prefixes and namespaces belong together. -/
def bind (scope : Scope) (qualifier address : String) : Except Fault Scope :=
  if address = "" ∧ qualifier ≠ "" then .error .undeclaredPrefix
  else if qualifier = "xmlns" then .error .reservedXmlnsPrefix
  else if address.toList.contains delimiter then .error .syntaxError
  else if qualifier = "xml" then
    if address = xmlNamespace then .ok ((qualifier, address) :: scope)
    else .error .reservedXmlPrefix
  else if address = xmlNamespace ∨ address = xmlnsNamespace then .error .reservedNamespace
  else .ok ((qualifier, address) :: scope)

/-- A name within a namespace as the tree shows it. -/
def inNamespace (address localName : String) : String :=
  if address = "" then localName else "\x7b" ++ address ++ "\x7d" ++ localName

/-- The tag of an element. -/
def elementName (scope : Scope) (n : QName) : Except Fault String :=
  match scope.lookup n.qualifier with
  | some address => .ok (inNamespace address n.localName)
  | none => if n.qualifier = "" then .ok n.localName else .error .unboundPrefix

/-- The name of an attribute. -/
def attributeName (scope : Scope) (n : QName) : Except Fault String :=
  if n.qualifier = "" then .ok n.localName
  else match scope.lookup n.qualifier with
    | some address => .ok (inNamespace address n.localName)
    | none => .error .unboundPrefix

end Scope

/-- The prefix that an attribute binds, if it is a namespace declaration. -/
def QName.boundPrefix? (n : QName) : Option String :=
  if n.qualifier = "xmlns" then some n.localName
  else if n.qualifier = "" ∧ n.localName = "xmlns" then some ""
  else none

end ResourceAudit.Markup
