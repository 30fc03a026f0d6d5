import ResourceAudit.Storage.Path

/-!
# File trees

The files and directories below a root, and which of the directories is the
current one. A file is known by the components that lead to it from the root,
and every directory on the way exists.

Paths are resolved as a file system does: `..` leads back out of a directory
that exists, and nothing can be looked up below a file.
-/

namespace ResourceAudit

structure FileTree where
  current : List String
  files : List (List String × List UInt8)
  directories : List (List String)
deriving DecidableEq, Repr

/-- Why nothing can be read at a path. -/
inductive AccessError
  | missing
  | isDirectory
  | notDirectory
deriving DecidableEq, Repr

def AccessError.message : AccessError → String
  | missing => "No such file or directory"
  | isDirectory => "Is a directory"
  | notDirectory => "Not a directory"

namespace FileTree

/-- The content of a file; a file written again has its last content. -/
def content? (t : FileTree) (place : List String) : Option (List UInt8) :=
  t.files.reverse.lookup place

/-- Whether a place is a directory: it is the root, was made, or leads to
something. -/
def hasDirectory (t : FileTree) (place : List String) : Bool :=
  place.isEmpty || place.isPrefixOf t.current || t.directories.any place.isPrefixOf ||
    t.files.any fun (file, _) => place.isPrefixOf file && place.length < file.length

/-- The place that components lead to from another place. There is nothing
above the root. -/
def walk (t : FileTree) (place : List String) : List String → Except AccessError (List String)
  | [] => .ok place
  | component :: rest =>
      if t.hasDirectory place then
        walk t (if component = ".." then place.dropLast else place ++ [component]) rest
      else if (t.content? place).isSome then .error .notDirectory
      else .error .missing

def resolve (t : FileTree) (p : Path) : Except AccessError (List String) :=
  t.walk (if p.anchor = .current then t.current else []) p.components

def isDirectory (t : FileTree) (p : Path) : Bool :=
  match t.resolve p with
  | .ok place => t.hasDirectory place
  | .error _ => false

def isFile (t : FileTree) (p : Path) : Bool :=
  match t.resolve p with
  | .ok place => (t.content? place).isSome
  | .error _ => false

/-- The bytes of a file. -/
def read (t : FileTree) (p : Path) : Except AccessError (List UInt8) := do
  let place ← t.resolve p
  match t.content? place with
  | some bytes => return bytes
  | none => throw (if t.hasDirectory place then .isDirectory else .missing)

/-- The components that lead from a place to each file below it. -/
def below (t : FileTree) (place : List String) : List (List String) :=
  (t.files.map Prod.fst).filterMap fun file =>
    if place.isPrefixOf file && place.length < file.length then some (file.drop place.length)
    else none

/-- The files below a directory, under the path of the directory. -/
def filesBelow (t : FileTree) (p : Path) : List Path :=
  match t.resolve p with
  | .ok place => (t.below place).map p.append
  | .error _ => []

end FileTree

end ResourceAudit
