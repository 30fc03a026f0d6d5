import ResourceAudit.CommandLine.Run
import ResourceAudit.Standard

/-!
# The program

Loads what the paths on the command line may name into a file tree, runs the
command line in it on the standard platform, and prints its lines to the error stream.
-/

namespace ResourceAudit

/-- The place of a path in the file system. -/
def placeOf (current : List String) (p : Path) : List String :=
  p.components.foldl enter (if p.anchor = .current then current else [])
where
  enter (place : List String) (component : String) : List String :=
    if component = ".." then place.dropLast else place ++ [component]

/-- Every place on the way from one place along the components of a path. -/
def placesAlong (current : List String) (p : Path) : List (List String) :=
  (List.range p.components.length).map fun n =>
    placeOf current { p with components := p.components.take n }

/-- Adds what is found at a place. Links to directories are followed only at
the place itself, not below it. -/
partial def loadAt (follow : Bool) (t : FileTree) (place : List String) : IO FileTree := do
  let here := (← IO.currentDir) / Path.text ⟨.root, place⟩
  if !(← here.pathExists) then return t
  let isLink := (← here.symlinkMetadata).type == .symlink
  match (← here.metadata).type with
  | .dir =>
      if isLink && !follow then return t
      let t := { t with directories := t.directories ++ [place] }
      (← here.readDir).foldlM (fun t found => loadAt false t (place ++ [found.fileName])) t
  | .file =>
      let bytes ← IO.FS.readBinFile here
      return { t with files := t.files ++ [(place, bytes.toList)] }
  | _ => return t

/-- Notes a place as a directory if it is one. -/
def noteDirectory (t : FileTree) (place : List String) : IO FileTree := do
  if ← ((← IO.currentDir) / Path.text ⟨.root, place⟩).isDir then
    return { t with directories := t.directories ++ [place] }
  else return t

/-- The tree as far as paths can tell. -/
def load (paths : List Path) : IO FileTree := do
  let current := (Path.ofString (← IO.currentDir).toString).components
  let mut t : FileTree := ⟨current, [], []⟩
  for p in paths do
    t ← (placesAlong current p).foldlM noteDirectory t
    t ← loadAt true t (placeOf current p)
  return t

/-- The paths that arguments name, none if the arguments are refused. -/
def namedPaths (arguments : List String) : List Path :=
  match CommandLine.Settings.parse arguments with
  | .ok settings => settings.paths.map Path.ofString
  | .error _ => []

def usageLine : String :=
  "usage: resxlint [-h] [--lenient] [--format \x7bmsbuild,simple,json\x7d] " ++
    "[--max-message-length N] [--verbose] paths [paths ...]"

end ResourceAudit

def main (arguments : List String) : IO UInt32 := do
  let t ← ResourceAudit.load (ResourceAudit.namedPaths arguments)
  match ResourceAudit.CommandLine.run .standard t arguments with
  | .ok (.finished exitCode lines) =>
      lines.forM IO.eprintln
      return exitCode.toUInt32
  | .ok (.usage exitCode) =>
      if exitCode = 0 then IO.println ResourceAudit.usageLine
      else IO.eprintln ResourceAudit.usageLine
      return exitCode.toUInt32
  | .error failure =>
      IO.eprintln failure.message
      return 1
