import ResourceAudit.Markup.Token
import ResourceAudit.Text.Pieces

/-!
# The document type

Reads a document type declaration with its internal declarations. Entities and
attribute lists are kept; element and notation declarations are checked for
their form only. Nothing outside the document is ever read.
-/

namespace ResourceAudit.Markup.Doctype

def unexpected {α : Type} (t : Token) : Reader α :=
  Reader.fail t.unexpected

def expectClose : Reader Unit := do
  match ← Token.read with
  | .close => return
  | t => unexpected t

def expectLiteral : Reader (List Char) := do
  match ← Token.read with
  | .literal text => return text
  | t => unexpected t

def expectName : Reader String := do
  match ← Token.read with
  | .word text .name => return text
  | t => unexpected t

/-- A name that may have a prefix. -/
def expectQName : Reader String := do
  match ← Token.read with
  | .word text .name => return text
  | .word text .prefixedName => return text
  | t => unexpected t

/-- The characters of a public identifier. -/
def isPublicIdChar (c : Char) : Bool :=
  c.isAlphanum || " \n\r-'()+,./:=?;!*#@$_%".toList.contains c

def expectPublicId : Reader Unit := do
  let text ← expectLiteral
  if !text.all isPublicIdChar then Reader.fail .badPublicId

/-- The rest of an external identifier, given its keyword; false if the word is
no such keyword. -/
def externalId (keyword : String) : Reader Bool := do
  if keyword = "SYSTEM" then
    let _ ← expectLiteral
    return true
  else if keyword = "PUBLIC" then
    expectPublicId
    let _ ← expectLiteral
    return true
  else return false

/-- The replacement text of an entity value: character references are resolved,
references to entities stay. -/
def entityText : Reader (List Char) :=
  Reader.loop step []
where
  step (found : List Char) : Reader (List Char ⊕ List Char) := do
    if ← Reader.atEnd then return .inr found.reverse
    let c ← Reader.next
    if c = '&' then
      match ← Piece.readReference with
      | .numeric (some c) => return .inl (c :: found)
      | .numeric none => Reader.fail .badCharacterReference
      | .entity name => return .inl (';' :: name.toList.reverse ++ '&' :: found)
      | .character c => return .inl (c :: found)
    else if c = '%' then
      let _ ← Reader.name
      Reader.expect ';'
      Reader.fail .illegalParameterReference
    else return .inl (c :: found)

/-- The replacement text of a literal, in which a reference that is cut off is
as bad as a malformed one. -/
def entityValue (literal : List Char) : Except Fault (List Char) :=
  match entityText.run literal with
  | .error .unclosedToken => .error .invalidToken
  | outcome => outcome

/-- An entity declaration after its keyword. -/
def entityDeclaration (d : Declarations) : Reader Declarations := do
  match ← Token.read with
  | .percent =>
      let _ ← expectName
      match ← Token.read with
      | .literal text =>
          if d.effective then
            let _ ← Reader.lift (entityValue text)
      | .word keyword .name =>
          if !(← externalId keyword) then Reader.fail .syntaxError
      | t => unexpected t
      expectClose
      return d
  | .word name .name =>
      match ← Token.read with
      | .literal text =>
          let value ← if d.effective then Reader.lift (entityValue text) else pure []
          expectClose
          return d.declareEntity name (.internal value)
      | .word keyword .name =>
          if !(← externalId keyword) then Reader.fail .syntaxError
          match ← Token.read with
          | .close => return d.declareEntity name .external
          | .word "NDATA" .name =>
              let _ ← expectName
              expectClose
              return d.declareEntity name .unparsed
          | t => unexpected t
      | t => unexpected t
  | t => unexpected t

/-- Words between bars up to a closing parenthesis. -/
def alternatives (accepts : WordKind → Bool) : Reader Unit :=
  Reader.loop step ()
where
  step (_ : Unit) : Reader (Unit ⊕ Unit) := do
    match ← Token.read with
    | .word _ kind => if !accepts kind then Reader.fail .syntaxError
    | t => unexpected t
    match ← Token.read with
    | .bar => return .inl ()
    | .closeParen none => return .inr ()
    | t => unexpected t

/-- The type of an attribute: whether its value is tokenized. -/
def attributeType : Reader Bool := do
  match ← Token.read with
  | .word "CDATA" .name => return false
  | .word "NOTATION" .name =>
      match ← Token.read with
      | .openParen =>
          alternatives (· == .name)
          return true
      | t => unexpected t
  | .word keyword .name =>
      if ["ID", "IDREF", "IDREFS", "ENTITY", "ENTITIES", "NMTOKEN", "NMTOKENS"].contains keyword
      then return true
      else Reader.fail .syntaxError
  | .openParen =>
      alternatives fun _ => true
      return true
  | t => unexpected t

/-- The value of a default literal. -/
def defaultValue (d : Declarations) (tokenized : Bool) (literal : List Char) :
    Except Fault (List Char) := do
  d.attributeValue tokenized (← Piece.ofText literal)

/-- What an attribute is without a value in the document. -/
def attributeDefault (d : Declarations) (tokenized : Bool) : Reader (Option (List Char)) := do
  match ← Token.read with
  | .keyword "IMPLIED" => return none
  | .keyword "REQUIRED" => return none
  | .keyword "FIXED" => literal (← expectLiteral)
  | .literal text => literal text
  | t => unexpected t
where
  literal (text : List Char) : Reader (Option (List Char)) := do
    if d.effective then return some (← Reader.lift (defaultValue d tokenized text))
    else return none

/-- A written name as prefix and local name. -/
def splitName (written : String) : QName :=
  match Text.before? ':' written.toList with
  | none => ⟨"", written⟩
  | some before =>
      ⟨String.ofList before, String.ofList (written.toList.drop (before.length + 1))⟩

/-- An attribute list declaration after its keyword. -/
def attributeList (d : Declarations) : Reader Declarations := do
  let element ← expectQName
  Reader.loop (step element) d
where
  step (element : String) (d : Declarations) : Reader (Declarations ⊕ Declarations) := do
    match ← Token.read with
    | .close => return .inr d
    | .word name .nameToken => unexpected (.word name .nameToken)
    | .word name _ =>
        let tokenized ← attributeType
        let default ← attributeDefault d tokenized
        return .inl (d.declareAttribute ⟨element, splitName name, tokenized, default⟩)
    | t => unexpected t

/-- The rest of a mixed content model after its first keyword. -/
def mixedContent : Reader Unit := do
  match ← Token.read with
  | .closeParen none => return
  | .closeParen (some '*') => return
  | .bar => Reader.loop step ()
  | t => unexpected t
where
  step (_ : Unit) : Reader (Unit ⊕ Unit) := do
    let _ ← expectQName
    match ← Token.read with
    | .bar => return .inl ()
    | .closeParen (some '*') => return .inr ()
    | t => unexpected t

/-- The groups of a content model that are open, innermost first, each with the
sign between its members once one is known; and whether a member must follow. -/
structure OpenGroups where
  connectors : List (Option Char)
  expectsMember : Bool

/-- Notes a sign between members. The members of a group are separated by one
kind of sign. -/
def connect (sign : Char) : List (Option Char) → Reader (List (Option Char))
  | some known :: rest =>
      if known = sign then pure (some known :: rest) else Reader.fail .syntaxError
  | none :: rest => pure (some sign :: rest)
  | [] => Reader.fail .syntaxError

/-- A member of a group, or the start of a group within it. -/
def groupMember (connectors : List (Option Char)) : Token → Reader (OpenGroups ⊕ Unit)
  | .openParen => return .inl ⟨none :: connectors, true⟩
  | .word _ .name => return .inl ⟨connectors, false⟩
  | .word _ .prefixedName => return .inl ⟨connectors, false⟩
  | .repeated => return .inl ⟨connectors, false⟩
  | t => unexpected t

/-- What follows a member of a group. -/
def groupEnd (connectors : List (Option Char)) : Token → Reader (OpenGroups ⊕ Unit)
  | .closeParen _ =>
      match connectors with
      | [] => return .inr ()
      | [_] => return .inr ()
      | _ :: rest => return .inl ⟨rest, false⟩
  | .comma => return .inl ⟨← connect ',' connectors, true⟩
  | .bar => return .inl ⟨← connect '|' connectors, true⟩
  | t => unexpected t

def groupStep (groups : OpenGroups) : Reader (OpenGroups ⊕ Unit) := do
  let t ← Token.read
  if groups.expectsMember then groupMember groups.connectors t
  else groupEnd groups.connectors t

/-- An element declaration after its keyword. -/
def elementDeclaration : Reader Unit := do
  let _ ← expectQName
  match ← Token.read with
  | .word "EMPTY" .name => expectClose
  | .word "ANY" .name => expectClose
  | .openParen =>
      match ← Token.read with
      | .keyword "PCDATA" => mixedContent
      | t =>
          match ← groupMember [none] t with
          | .inl groups => Reader.loop groupStep groups
          | .inr () => return
      expectClose
  | t => unexpected t

/-- A notation declaration after its keyword. -/
def notationDeclaration : Reader Unit := do
  let _ ← expectName
  match ← Token.read with
  | .word "SYSTEM" .name =>
      let _ ← expectLiteral
      expectClose
  | .word "PUBLIC" .name =>
      expectPublicId
      match ← Token.read with
      | .close => return
      | .literal _ => expectClose
      | t => unexpected t
  | t => unexpected t

/-- One declaration within the brackets. -/
def declarationStep (d : Declarations) : Reader (Declarations ⊕ Declarations) := do
  match ← Token.read with
  | .declaration "ENTITY" => return .inl (← entityDeclaration d)
  | .declaration "ATTLIST" => return .inl (← attributeList d)
  | .declaration "ELEMENT" =>
      elementDeclaration
      return .inl d
  | .declaration "NOTATION" =>
      notationDeclaration
      return .inl d
  | .comment => return .inl d
  | .instruction => return .inl d
  | .parameterReference =>
      return .inl { d with incomplete := true, effective := d.effective && d.standalone }
  | .closeBracket => return .inr d
  | t => unexpected t

/-- The declarations in brackets, and the end of the document type. -/
def brackets (d : Declarations) : Reader Declarations := do
  let d ← Reader.loop declarationStep d
  expectClose
  return d

/-- A document type after its keyword. -/
def read (d : Declarations) : Reader Declarations := do
  let _ ← expectQName
  match ← Token.read with
  | .close => return d
  | .openBracket => brackets d
  | .word keyword .name =>
      if !(← externalId keyword) then Reader.fail .syntaxError
      let d := { d with incomplete := true }
      match ← Token.read with
      | .close => return d
      | .openBracket => brackets d
      | t => unexpected t
  | t => unexpected t

end ResourceAudit.Markup.Doctype
