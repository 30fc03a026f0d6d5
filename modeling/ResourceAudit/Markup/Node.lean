/-!
# Document trees

An element has a tag, attributes and children; a child is an element or text.
The tag of an element in a namespace is the namespace in braces followed by the
local name, and so is the name of an attribute with a namespace. Comments and
processing instructions leave no trace.
-/

namespace ResourceAudit.Markup

inductive Node
  | text (content : String)
  | element (tag : String) (attributes : List (String × String)) (children : List Node)
deriving Repr

namespace Node

mutual

/-- The texts at or below a node, in document order. -/
def texts : Node → List String
  | text content => [content]
  | element _ _ children => textsAll children

def textsAll : List Node → List String
  | [] => []
  | node :: rest => texts node ++ textsAll rest

end

/-- All text below a node. -/
def content (n : Node) : String :=
  String.join n.texts

mutual

/-- The elements of a tag at or below a node, in document order. -/
def elements (tag : String) : Node → List Node
  | text _ => []
  | element own attributes children =>
      let below := elementsAll tag children
      if own = tag then element own attributes children :: below else below

def elementsAll (tag : String) : List Node → List Node
  | [] => []
  | node :: rest => elements tag node ++ elementsAll tag rest

end

def tag? : Node → Option String
  | text _ => none
  | element tag _ _ => some tag

def children : Node → List Node
  | text _ => []
  | element _ _ children => children

def attribute? (name : String) : Node → Option String
  | text _ => none
  | element _ attributes _ => attributes.lookup name

/-- The children that are elements, with their tags. -/
def taggedChildren (n : Node) : List (String × Node) :=
  n.children.filterMap fun child => child.tag?.map (·, child)

end Node

end ResourceAudit.Markup
