import ResourceAudit.Markup.Piece

/-!
# Declarations of a document type

What the internal part of a document type declares as far as it shows in the
tree: entities, and the attributes that elements have by default. The first
declaration of a name counts.

Attribute values are evaluated here, because references in them may stand for
entities. An entity is not open to references within its own text; the number
of declared entities bounds how deeply references can be nested.
-/

namespace ResourceAudit.Markup

/-- A name with a prefix, which is empty where none is written. -/
structure QName where
  qualifier : String
  localName : String
deriving DecidableEq, Repr

namespace QName

/-- The name as it stands in the document. -/
def written (n : QName) : String :=
  if n.qualifier = "" then n.localName else n.qualifier ++ ":" ++ n.localName

end QName

inductive Entity
  | internal (text : List Char)
  /-- Kept in a file of its own, which is never read. -/
  | external
  /-- Kept in a file that is no XML. -/
  | unparsed
deriving DecidableEq, Repr

/-- What an attribute list declares about one attribute of an element. -/
structure AttributeRule where
  element : String
  name : QName
  /-- Whether blanks of the value separate tokens. -/
  tokenized : Bool
  default : Option (List Char)
deriving DecidableEq, Repr

structure Declarations where
  entities : List (String × Entity)
  rules : List AttributeRule
  /-- Whether there may be declarations outside the document. -/
  incomplete : Bool
  /-- Whether the document says it needs no declarations from outside. -/
  standalone : Bool
  /-- Whether declarations still count: those after a reference to an unread
  part do not. -/
  effective : Bool
deriving Repr

namespace Declarations

def none (standalone : Bool) : Declarations :=
  ⟨[], [], false, standalone, true⟩

def declareEntity (d : Declarations) (name : String) (entity : Entity) : Declarations :=
  if !d.effective || (Piece.predefined? name).isSome || (d.entities.lookup name).isSome then d
  else { d with entities := d.entities ++ [(name, entity)] }

/-- Adds a rule. A default for an attribute that already has a rule is void. -/
def declareAttribute (d : Declarations) (rule : AttributeRule) : Declarations :=
  if !d.effective then d
  else if rule.default.isSome &&
      d.rules.any fun r => r.element == rule.element && r.name == rule.name then d
  else { d with rules := d.rules ++ [rule] }

def isTokenized (d : Declarations) (element : String) (name : QName) : Bool :=
  match d.rules.find? fun r => r.element == element && r.name == name with
  | some rule => rule.tokenized
  | _ => false

/-- The default values of an element's attributes. -/
def defaults (d : Declarations) (element : String) : List (QName × List Char) :=
  d.rules.filterMap fun r =>
    if r.element = element then r.default.map (r.name, ·) else Option.none

/-- How a reference resolves where nothing but text or a fault can come of it. -/
inductive Resolution
  | text (name : String) (text : List Char)
  | external (name : String)
  | skipped (name : String)

/-- Resolves a reference, given the entities whose texts are being read. -/
def resolve (d : Declarations) (opened : List String) (name : String) :
    Except Fault Resolution :=
  match d.entities.lookup name with
  | Option.none =>
      if d.incomplete && !d.standalone then .ok (.skipped name) else .error .undefinedEntity
  | some entity =>
      if opened.contains name then .error .recursiveEntity
      else match entity with
        | .internal text => .ok (.text name text)
        | .external => .ok (.external name)
        | .unparsed => .error .binaryEntity

/-- The characters of one piece of an attribute value. -/
def pieceValue (d : Declarations) (opened : List String)
    (expand : String → List Char → Except Fault (List Char)) : Piece → Except Fault (List Char)
  | .character c => .ok [if isSeparator c then ' ' else c]
  | .numeric (some c) => .ok [c]
  | .numeric Option.none => .error .badCharacterReference
  | .entity name =>
      match Piece.predefined? name with
      | some c => .ok [c]
      | Option.none => do
          match ← d.resolve opened name with
          | .text name text => expand name text
          | .external _ => .error .externalEntityInAttribute
          | .skipped _ => .ok []

/-- The characters of an attribute value before blanks are collapsed. -/
def expandedValue (d : Declarations) : Nat → List String → List Piece → Except Fault (List Char)
  | 0, opened, pieces =>
      (pieces.mapM (d.pieceValue opened fun _ _ => .error .recursiveEntity)).map List.flatten
  | depth + 1, opened, pieces =>
      (pieces.mapM (d.pieceValue opened fun name text => do
        expandedValue d depth (name :: opened) (← Piece.ofText text))).map List.flatten

/-- Drops leading and trailing spaces and all but one of adjacent ones. -/
def collapse (cs : List Char) : List Char :=
  match (cs.dropWhile (· == ' ')).foldr keep [] with
  | [' '] => []
  | collapsed => collapsed
where
  keep (c : Char) (rest : List Char) : List Char :=
    if c = ' ' ∧ (rest = [] ∨ rest.head? = some ' ') then rest else c :: rest

/-- The value of an attribute. -/
def attributeValue (d : Declarations) (tokenized : Bool) (pieces : List Piece) :
    Except Fault (List Char) :=
  (d.expandedValue d.entities.length [] pieces).map fun cs =>
    if tokenized then collapse cs else cs

end Declarations

end ResourceAudit.Markup
