import ResourceAudit.Declaration.Parameter
import ResourceAudit.Text.Pieces

/-!
# Comment modes

The comment of a base entry declares how its value must be shaped. Leading
blanks aside, a comment beginning with

* `-` suppresses all structural checks,
* `!(a, b, c)` lists the values that are allowed,
* a parameter list in braces makes the value a format string,

and any other comment is a note. A list ends at its first closing bracket, and
what follows is a note again; a list that is never closed is no declaration.
-/

namespace ResourceAudit

inductive Mode
  | plain
  | suppressed
  | enumeration (variants : List String)
  | parameterized (parameters : List Parameter)
deriving DecidableEq, Repr

/-- Why a parameter list is refused. -/
inductive DeclarationError
  /-- Nothing stands between the braces; the whole comment is quoted. -/
  | empty (comment : String)
  /-- A piece of the list is no parameter declaration. -/
  | bad (piece : String)
deriving DecidableEq, Repr

namespace Mode

/-- The declared parameters, none outside a parameterized mode. -/
def parameters : Mode → List Parameter
  | parameterized ps => ps
  | _ => []

/-- The declared variants, none outside an enumeration. -/
def variants : Mode → List String
  | enumeration vs => vs
  | _ => []

/-- The variant list as diagnostics quote it. -/
def describe (variants : List String) : String :=
  "(" ++ String.intercalate ", " variants ++ ")"

/-- A value is allowed if it is a variant once trimmed. -/
def allows (variants : List String) (value : String) : Bool :=
  variants.contains (Text.strip value)

/-- The variants of a list: its pieces, trimmed, without the blank ones. -/
def readVariants (list : List Char) : List String :=
  (((Text.pieces ',' list).map Text.trim).filter (!·.isEmpty)).map String.ofList

/-- Every piece must be a parameter declaration; the first that is not is
reported. -/
def readPieces : List (List Char) → Except DeclarationError (List Parameter)
  | [] => .ok []
  | piece :: rest =>
      match Parameter.parse? (String.ofList piece) with
      | none => .error (.bad (String.ofList (Text.trim piece)))
      | some parameter => (readPieces rest).map (parameter :: ·)

/-- The parameter list between braces. -/
def readParameters (comment body : List Char) : Except DeclarationError (List Parameter) :=
  if Text.allBlank body then .error (.empty (String.ofList (Text.trim comment)))
  else readPieces (Text.pieces ',' body)

/-- The mode a comment text declares. -/
def read (comment : List Char) : Except DeclarationError Mode :=
  match Text.dropBlank comment with
  | '-' :: _ => .ok .suppressed
  | '!' :: '(' :: rest =>
      match Text.before? ')' rest with
      | some list => .ok (.enumeration (readVariants list))
      | none => .ok .plain
  | '{' :: rest =>
      match Text.before? '}' rest with
      | some body => (readParameters comment body).map .parameterized
      | none => .ok .plain
  | _ => .ok .plain

/-- The mode of an entry with the given comment. No comment declares nothing. -/
def ofComment : Option String → Except DeclarationError Mode
  | none => .ok .plain
  | some comment => read comment.toList

end Mode

end ResourceAudit
