import ResourceAudit.Text.Pieces

/-!
# Paths

A path as its components, read from the current directory or from a root. Two slashes at the
beginning are another root than one; more of them are one again. Empty components and `.` are
dropped when a path is read; `..` is kept, so two paths to one file may differ. Paths are ordered
by the pieces of their texts.
-/

namespace ResourceAudit

/-- Where a path is read from. -/
inductive Anchor
  | current
  | root
  /-- The root as two slashes name it. -/
  | doubleRoot
deriving DecidableEq, Repr

namespace Anchor

/-- What the text of a path begins with. -/
def text : Anchor → String
  | current => ""
  | root => "/"
  | doubleRoot => "//"

/-- The anchor of a text. -/
def ofChars : List Char → Anchor
  | '/' :: '/' :: '/' :: _ => root
  | '/' :: '/' :: _ => doubleRoot
  | '/' :: _ => root
  | _ => current

end Anchor

structure Path where
  anchor : Anchor
  components : List String
deriving DecidableEq, Repr

namespace Path

/-- Reads the text of a path. -/
def ofString (text : String) : Path where
  anchor := .ofChars text.toList
  components := (Text.splitAt '/' text).filter fun part => part ≠ "" && part ≠ "."

/-- The text of a path. The empty path is the current directory. -/
def text (p : Path) : String :=
  if p.anchor = .current ∧ p.components = [] then "."
  else p.anchor.text ++ String.intercalate "/" p.components

/-- What paths are ordered by. -/
def order (p : Path) : List String :=
  Text.splitAt '/' p.text

instance : LT Path where
  lt p q := p.order < q.order

instance : DecidableLT Path := fun p q =>
  inferInstanceAs (Decidable (p.order < q.order))

/-- The last component. -/
def name (p : Path) : String :=
  p.components.getLast?.getD ""

def parent (p : Path) : Path :=
  { p with components := p.components.dropLast }

def append (p : Path) (components : List String) : Path :=
  { p with components := p.components ++ components }

/-- A name up to its last dot. A dot at either end of the name separates
nothing. -/
def stemOf (name : String) : String :=
  match Text.aroundLast? '.' name.toList with
  | some (head, tail) =>
      if head.isEmpty || tail.isEmpty then name else String.ofList head
  | none => name

/-- The last component without its suffix. -/
def stem (p : Path) : String :=
  stemOf p.name

end Path

end ResourceAudit
