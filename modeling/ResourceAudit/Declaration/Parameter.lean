import ResourceAudit.Text.Blank
import ResourceAudit.Text.Word

/-!
# Parameter declarations

A parameter is declared as `<type> <name>`. The type is a dotted sequence of
identifiers with an optional `?` at its end; blanks may stand around the dots
and before the `?`, and the type is kept without them. Blanks must separate the
type from the name.
-/

namespace ResourceAudit

/-- A formatting parameter. The parameter at position `i` of a declaration
binds placeholder `i`. -/
structure Parameter where
  type : String
  name : String
deriving DecidableEq, Repr

namespace Identifier

/-- An identifier begins with `@` or with a word character that is no digit. -/
def isStart (c : Char) : Bool :=
  c == '@' || (Text.isWord c && !Text.isDecimal c)

/-- An identifier at the start of a text, and the text after it. -/
def read : List Char → Option (List Char × List Char)
  | [] => none
  | c :: rest =>
      if isStart c then some (c :: rest.takeWhile Text.isWord, rest.dropWhile Text.isWord)
      else none

theorem length_rest_lt {cs name rest : List Char} (h : read cs = some (name, rest)) :
    rest.length < cs.length := by
  cases cs with
  | nil => simp [read] at h
  | cons c cs =>
      rw [read] at h
      split at h
      · cases h
        exact Nat.lt_succ_of_le (List.dropWhile_suffix _).length_le
      · cases h

end Identifier

namespace Parameter

/-- The parameter as it is written in a declaration. -/
def declaration (p : Parameter) : String :=
  p.type ++ " " ++ p.name

/-- Identifiers joined by dots at the start of a text. Blanks around the dots
are dropped, blanks after the last identifier are not. -/
def readDotted (cs : List Char) : Option (List Char × List Char) :=
  match _hread : Identifier.read cs with
  | none => none
  | some (head, rest) =>
      match _hdot : Text.dropBlank rest with
      | '.' :: after =>
          (readDotted (Text.dropBlank after)).map fun (tail, rest) => (head ++ '.' :: tail, rest)
      | _ => some (head, rest)
termination_by cs.length
decreasing_by
  have hrest := Identifier.length_rest_lt _hread
  have hdrop := Text.length_dropBlank_le rest
  have hafter := Text.length_dropBlank_le after
  rw [_hdot, List.length_cons] at hdrop
  omega

/-- The optional marker of a nullable type, with the blanks before it. -/
def readNullable (cs : List Char) : List Char × List Char :=
  match Text.dropBlank cs with
  | '?' :: rest => (['?'], rest)
  | _ => ([], cs)

/-- The name at the end of a declaration: blanks, an identifier, blanks. -/
def readName (cs : List Char) : Option (List Char) :=
  match cs with
  | [] => none
  | c :: rest =>
      if Text.isBlank c then
        match Identifier.read (Text.dropBlank rest) with
        | some (name, after) => if Text.allBlank after then some name else none
        | none => none
      else none

/-- Reads one declaration; `none` if the text is not of the declared form. -/
def parse? (text : String) : Option Parameter := do
  let (type, rest) ← readDotted (Text.dropBlank text.toList)
  let (marker, rest) := readNullable rest
  let name ← readName rest
  return ⟨String.ofList (type ++ marker), String.ofList name⟩

end Parameter

end ResourceAudit
