import ResourceAudit.Text.Blank
import ResourceAudit.Text.Pieces

/-!
# Resource entries

An entry as it stands in a resource file. An entry with a type tag includes
another file, and its value then names that file and the type of its content.
-/

namespace ResourceAudit

structure Entry where
  name : String
  value : String
  comment : Option String
  /-- The type tag of an include entry. -/
  type : Option String
deriving DecidableEq, Repr

namespace Entry

def isInclude (e : Entry) : Bool :=
  e.type.isSome

/-- Pairs every entry with whether an earlier one has its name. -/
def markRepeats : List Entry → List (Entry × Bool) :=
  go []
where
  go (seen : List String) : List Entry → List (Entry × Bool)
    | [] => []
    | e :: rest => (e, seen.contains e.name) :: go (e.name :: seen) rest

end Entry

/-- What the value of an include entry says. -/
structure Inclusion where
  file : String
  type : String
deriving DecidableEq, Repr

namespace Inclusion

/-- Reads a value of the form `<file>;<type>, <assembly>`. Further parts are
ignored. -/
def parse? (value : String) : Option Inclusion :=
  match Text.pieces ';' value.toList with
  | file :: description :: _ =>
      match Text.pieces ',' description with
      | type :: _ :: _ => some ⟨String.ofList file, String.ofList (Text.trim type)⟩
      | _ => none
  | _ => none

end Inclusion

end ResourceAudit
