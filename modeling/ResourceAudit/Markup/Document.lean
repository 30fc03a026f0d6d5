import ResourceAudit.Markup.Content
import ResourceAudit.Markup.Doctype

/-!
# Documents

A document is an optional XML declaration, an optional document type, one
element, and nothing after it but comments and processing instructions. This
module reads the decoded characters after the XML declaration, which decides
how they are decoded, and the declaration itself.
-/

namespace ResourceAudit.Markup

/-- What an XML declaration says. -/
structure XmlDeclaration where
  encoding : Option String
  standalone : Bool
deriving DecidableEq, Repr

namespace XmlDeclaration

/-- A name and a quoted value after separators. The outer option is none if the
text is malformed, the inner one if it has ended. -/
def readPair (cs : List Char) : Option (Option (String × String) × List Char) :=
  match cs, cs.dropWhile isSeparator with
  | [], _ => some (none, [])
  | _, [] => some (none, [])
  | c :: _, start =>
      if !isSeparator c then none
      else
        let name := start.takeWhile fun c => c ≠ '=' && !isSeparator c
        match (start.drop name.length).dropWhile isSeparator with
        | '=' :: rest =>
            match rest.dropWhile isSeparator with
            | quote :: rest =>
                if name.isEmpty || (quote ≠ '"' && quote ≠ '\'') then none
                else
                  let value := rest.takeWhile isValueChar
                  match rest.drop value.length with
                  | last :: rest =>
                      if last = quote then
                        some (some (String.ofList name, String.ofList value), rest)
                      else none
                  | [] => none
            | [] => none
        | _ => none
where
  isValueChar (c : Char) : Bool := c.isAlphanum || c == '.' || c == '-' || c == '_'

/-- The end of a declaration: `standalone` and nothing after it. -/
def readStandalone (encoding : Option String) : Option (String × String) → List Char →
    Option XmlDeclaration
  | none, _ => some ⟨encoding, false⟩
  | some ("standalone", "yes"), rest =>
      if rest.all isSeparator then some ⟨encoding, true⟩ else none
  | some ("standalone", "no"), rest =>
      if rest.all isSeparator then some ⟨encoding, false⟩ else none
  | some _, _ => none

/-- The body of a declaration: a version, then optionally an encoding, then
optionally `standalone`. -/
def parse? (body : List Char) : Option XmlDeclaration := do
  let (version, rest) ← readPair body
  let (name, _) ← version
  if name ≠ "version" then none
  let (second, rest) ← readPair rest
  match second with
  | some ("encoding", encoding) =>
      if !(encoding.toList.head?.any Char.isAlpha) then none
      let (third, rest) ← readPair rest
      readStandalone (some encoding) third rest
  | _ => readStandalone none second rest

/-- The XML declaration a text may begin with. -/
def read : Reader (Option XmlDeclaration) := do
  if !(← Reader.sees ['<', '?']) then return none
  let _ ← Reader.next
  let _ ← Reader.next
  let instruction ← Token.readInstruction
  if instruction.isXmlDeclaration then
    match parse? instruction.body with
    | some declaration => return some declaration
    | none => Reader.fail .malformedDeclaration
  else return none

end XmlDeclaration

namespace Document

/-- What precedes the root element: the declarations in force, and whether the
document type has been read. -/
structure Prolog where
  declarations : Declarations
  hasDoctype : Bool

/-- One step before the root element, which ends with the first character of
its name. -/
def prologStep (p : Prolog) : Reader (Prolog ⊕ (Declarations × Char)) := do
  match ← Token.read with
  | .comment => return .inl p
  | .instruction => return .inl p
  | .elementStart first => return .inr (p.declarations, first)
  | .declaration "DOCTYPE" =>
      if p.hasDoctype then Reader.fail .syntaxError
      return .inl ⟨← Doctype.read p.declarations, true⟩
  | t => Reader.fail t.unexpected

/-- One step after the root element. -/
def epilogStep (_ : Unit) : Reader (Unit ⊕ Unit) := do
  let _ ← Reader.skipSeparators
  if ← Reader.atEnd then return .inr ()
  match ← Token.read with
  | .comment => return .inl ()
  | .instruction => return .inl ()
  | _ => Reader.fail .junkAfterDocument

/-- The root element and everything around it. -/
def read (standalone : Bool) : Reader Node := do
  let (declarations, first) ← Reader.loop prologStep ⟨.none standalone, false⟩
  let start ← Reader.lift (Builder.empty.enter declarations (← StartTag.read first))
  let built ← Content.read declarations start
  match built.root with
  | none => Reader.fail .noElement
  | some root =>
      Reader.loop epilogStep ()
      return root

end Document

end ResourceAudit.Markup
