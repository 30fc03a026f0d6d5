import ResourceAudit.Check.Event
import ResourceAudit.Collection.Ascending
import ResourceAudit.Collection.Keyed
import ResourceAudit.Culture.Name
import ResourceAudit.Storage.Tree

/-!
# Discovering groups

A resource group is a base file and its satellites in the same directory. A
satellite has the stem of its base with a culture name after it. Files are
grouped by their directory and by the stem without culture; of several bases of
one key the last in path order stands.
-/

namespace ResourceAudit

/-- A base file and its satellites, in path order. -/
structure FileGroup where
  base : Path
  satellites : List Path
deriving DecidableEq, Repr

namespace Discovery

/-- The parts of a stem around its last dot, if it has two parts. -/
def lastSegment? (stem : String) : Option (String × String) :=
  match Text.aroundLast? '.' stem.toList with
  | some (head, segment) =>
      if head.isEmpty then none else some (String.ofList head, String.ofList segment)
  | none => none

section Cultures

variable (locales : Culture.Locales)

/-- The stem of a file without its culture, and the culture. -/
def splitCulture (p : Path) : String × Option String :=
  match lastSegment? p.stem with
  | some (head, segment) =>
      if Culture.isName locales segment then (head, some segment) else (p.stem, none)
  | none => (p.stem, none)

/-- The segment that was taken for a culture name by its shape alone. -/
def mistaken? (p : Path) : Option String :=
  match lastSegment? p.stem with
  | some (_, segment) =>
      if Culture.hasShape segment && !Culture.hasLocale locales segment then some segment
      else none
  | none => none

end Cultures

def suffix : String := ".resx"

/-- Whether a name ends in the suffix of resource files, in any case. -/
def hasSuffix (name : String) : Bool :=
  suffix.toList.isSuffixOf (name.toList.map Char.toLower)

def log (level : LogLevel) (message : String) : Event :=
  .log ⟨level, .discovery, message⟩

/-- The files a path stands for. A directory is searched for resource files, a
file stands for itself. -/
def filesAt (t : FileTree) (p : Path) : List Path :=
  if t.isDirectory p then (t.filesBelow p).filter fun file => hasSuffix file.name
  else if t.isFile p then [p]
  else []

/-- The distinct files that paths stand for, in order. -/
def expand (t : FileTree) (paths : List Path) : List Path :=
  Ascending.ofList (paths.flatMap (filesAt t))

/-- Reports the paths at which there is nothing. -/
def missingPaths (t : FileTree) (paths : List Path) : List Event :=
  (paths.filter fun p => !t.isDirectory p && !t.isFile p).map fun p =>
    log .warning s!"Path does not exist: {p.text}"

/-- What files are grouped by: their directory and their stem. -/
abbrev Key := Path × String

section Groups

variable (locales : Culture.Locales)

def keyOf (file : Path) : Key :=
  (file.parent, (splitCulture locales file).1)

def isSatellite (file : Path) : Bool :=
  (splitCulture locales file).2.isSome

/-- The base file of each key. -/
def bases (files : List Path) : List (Key × Path) :=
  Keyed.ofPairs
    ((files.filter (!isSatellite locales ·)).map fun file => (keyOf locales file, file))

/-- The satellites of each key. -/
def satellites (files : List Path) : List (Key × List Path) :=
  (files.filter (isSatellite locales)).foldl
    (fun found file =>
      Keyed.alter (keyOf locales file) (fun others => others.getD [] ++ [file]) found) []

/-- The groups of files, in the order of their bases. -/
def groupsOf (files : List Path) : List FileGroup :=
  let found := satellites locales files
  (Ascending.ofList ((bases locales files).map Prod.snd)).map fun base =>
    ⟨base, (Keyed.get? (keyOf locales base) found).getD []⟩

/-- The satellites without a base among the files. -/
def orphans (files : List Path) : List Path :=
  let known := bases locales files
  ((satellites locales files).filter fun (key, _) => (Keyed.get? key known).isNone).flatMap Prod.snd

end Groups

/-- What is discovered at paths, and what is logged on the way. -/
structure Outcome where
  files : List Path
  groups : List FileGroup
  events : List Event
deriving DecidableEq, Repr

def run (locales : Culture.Locales) (t : FileTree) (paths : List Path) : Outcome :=
  let files := expand t paths
  let groups := groupsOf locales files
  { files, groups
    events :=
      missingPaths t paths ++
      ((files.filterMap (mistaken? locales)).eraseDups.map fun segment =>
        .log ⟨.debug, .cultures, s!"Not a culture name: {segment}"⟩) ++
      ((orphans locales files).map fun file =>
        log .warning s!"No base resource file for satellite: {file.text}") ++
      [log .info s!"Discovered {groups.length} resource group(s)"] }

end Discovery

end ResourceAudit
