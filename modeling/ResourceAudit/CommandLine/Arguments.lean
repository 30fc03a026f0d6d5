import ResourceAudit.Diagnostic.Line
import ResourceAudit.Failure
import ResourceAudit.Text.Blank
import ResourceAudit.Text.Word

/-!
# Arguments

The arguments of the command line. Options may stand anywhere; long ones may be
shortened as long as they stay unambiguous, and take a value after an equals
sign or as the next argument. Single-letter options may share one dash. All
paths must stand together. After `--` everything is a path.

What each argument is taken for is decided first for all of them. They are then
taken one by one, so that a request for help counts if it comes before a
mistake, except that missing or surplus paths and unknown options are only
noticed at the end.
-/

namespace ResourceAudit.CommandLine

inductive Switch
  | help
  | lenient
  | format
  | limit
  | verbose
deriving DecidableEq, Repr

namespace Switch

def takesValue : Switch → Bool
  | format => true
  | limit => true
  | _ => false

def longNames : List (String × Switch) :=
  [("--help", help), ("--lenient", lenient), ("--format", format),
    ("--max-message-length", limit), ("--verbose", verbose)]

def shortNames : List (Char × Switch) :=
  [('h', help), ('v', verbose)]

end Switch

/-- What an argument is taken for. -/
inductive Argument
  | positional (text : String)
  /-- A long option, with the text after its equals sign. -/
  | long (switch : Switch) (attached : Option String)
  /-- A single-letter option, with what shares its dash. -/
  | short (switch : Switch) (others : List Char)
  /-- Short for several long options. -/
  | ambiguous
  | unknown
  | separator
deriving DecidableEq, Repr

/-- Why there is nothing to run. -/
inductive Refusal
  | help
  | mistake
deriving DecidableEq, Repr

structure Settings where
  paths : List String
  lenient : Bool
  format : LineFormat
  limit : Option Int
  verbosity : Nat
deriving DecidableEq, Repr

namespace Argument

/-- A minus sign before digits, or before a decimal fraction. A line feed may
follow. -/
def isNegativeNumber (text : String) : Bool :=
  match text.toList with
  | '-' :: rest =>
      let rest := if rest.getLast? = some '\n' then rest.dropLast else rest
      match rest.dropWhile Text.isDecimal with
      | [] => !rest.isEmpty
      | '.' :: fraction => !fraction.isEmpty && fraction.all Text.isDecimal
      | _ => false
  | _ => false

/-- The text before the first equals sign, and the text after it. -/
def splitValue (text : String) : String × Option String :=
  let name := text.toList.takeWhile (· ≠ '=')
  match text.toList.drop name.length with
  | _ :: value => (String.ofList name, some (String.ofList value))
  | [] => (String.ofList name, none)

/-- The long options that a name may be short for. -/
def candidates (name : String) : List Switch :=
  (Switch.longNames.filter fun entry => name.toList.isPrefixOf entry.1.toList).map Prod.snd

/-- An argument that begins with a dash but is no known option. -/
def unrecognized (text : String) : Argument :=
  if isNegativeNumber text || text.toList.contains ' ' then .positional text else .unknown

/-- Takes an argument that begins with two dashes. -/
def ofLong (text : String) : Argument :=
  let (name, value) := splitValue text
  match Switch.longNames.lookup name, candidates name with
  | some switch, _ => .long switch value
  | none, [switch] => .long switch value
  | none, [] => unrecognized text
  | none, _ => .ambiguous

/-- Takes an argument that begins with one dash, given what follows it. A dash with nothing
before an equals sign is short for every long option. -/
def ofShort (text : String) : List Char → Argument
  | [] => .positional text
  | letter :: rest =>
      match Switch.shortNames.lookup letter with
      | some switch => .short switch rest
      | none => if letter = '=' then .ambiguous else unrecognized text

/-- What an argument before any `--` is taken for. -/
def ofText (text : String) : Argument :=
  match text.toList with
  | '-' :: '-' :: _ => ofLong text
  | '-' :: rest => ofShort text rest
  | _ => .positional text

/-- What each argument is taken for. -/
def classify : List String → List Argument
  | [] => []
  | "--" :: rest => .separator :: rest.map .positional
  | text :: rest => ofText text :: classify rest

/-- The text of an argument among the paths; the separator is none of them. -/
def path? : Argument → Option String
  | .positional text => some text
  | _ => none

/-- Whether an argument may stand among the paths. -/
def isPathLike : Argument → Bool
  | .positional _ => true
  | .separator => true
  | _ => false

end Argument

/-- The controls U+001C to U+001F are blanks elsewhere, but not around a
number. -/
def isSeparatorControl (c : Char) : Bool :=
  0x1C ≤ c.toNat && c.toNat ≤ 0x1F

/-- The number of a text: an optional sign, and digits of any script in which
single underscores may separate digits. -/
def readInteger (text : String) : Option Int :=
  if text.toList.any isSeparatorControl then none
  else match Text.trim text.toList with
  | '-' :: rest => (magnitude rest).map fun n => -(n : Int)
  | '+' :: rest => (magnitude rest).map fun n => (n : Int)
  | rest => (magnitude rest).map fun n => (n : Int)
where
  magnitude (cs : List Char) : Option Nat :=
    let groups := Text.pieces '_' cs
    if groups.any List.isEmpty || Failure.precisionDigitLimit < groups.flatten.length then none
    else (groups.flatten.mapM Text.decimalValue?).map fun digits =>
      digits.foldl (fun n d => 10 * n + d) 0

/-- What has been taken from the arguments so far. -/
structure Progress where
  settings : Settings
  /-- Whether there is an argument that nothing has use for. -/
  surplus : Bool
deriving DecidableEq, Repr

namespace Progress

def start : Progress := ⟨⟨[], false, .buildLog, none, 0⟩, false⟩

/-- Applies an option without value. -/
def apply (p : Progress) : Switch → Except Refusal Progress
  | .help => .error .help
  | .lenient => .ok { p with settings.lenient := true }
  | .verbose => .ok { p with settings.verbosity := p.settings.verbosity + 1 }
  | _ => .error .mistake

/-- Applies an option with its value. -/
def applyValue (p : Progress) (switch : Switch) (value : String) : Except Refusal Progress :=
  match switch with
  | .format =>
      match LineFormat.ofName? value with
      | some format => .ok { p with settings.format := format }
      | none => .error .mistake
  | .limit =>
      match readInteger value with
      | some limit => .ok { p with settings.limit := some limit }
      | none => .error .mistake
  | _ => .error .mistake

/-- The single-letter options that share a dash with one before them, up to a letter that is
none, and whether there is such a letter. A value or another dash cannot be attached. -/
def cluster : List Char → Except Refusal (List Switch × Bool)
  | [] => .ok ([], false)
  | letter :: rest =>
      if letter = '=' ∨ letter = '-' then .error .mistake
      else match Switch.shortNames.lookup letter with
        | some switch => (cluster rest).map fun (others, unknown) => (switch :: others, unknown)
        | none => .ok ([], true)

/-- Takes a block of paths. Only the first block with a path in it counts, and
one separator in it is dropped. -/
def takePaths (p : Progress) (block : List Argument) : Progress :=
  let paths := block.filterMap Argument.path?
  if p.settings.paths.isEmpty && !paths.isEmpty then { p with settings.paths := paths }
  else { p with surplus := true }

/-- Takes arguments one by one. -/
def take (p : Progress) (arguments : List Argument) : Except Refusal Progress :=
  match arguments with
  | [] => .ok p
  | .unknown :: rest => take { p with surplus := true } rest
  | .ambiguous :: _ => .error .mistake
  | .long switch (some value) :: rest => do
      take (← p.applyValue switch value) rest
  | .long switch none :: rest =>
      if switch.takesValue then
        match rest with
        | .positional value :: rest => do take (← p.applyValue switch value) rest
        | _ => .error .mistake
      else do take (← p.apply switch) rest
  | .short switch others :: rest => do
      let (others, unknown) ← cluster others
      let p ← (switch :: others).foldlM apply p
      take { p with surplus := p.surplus || unknown } rest
  | first :: rest =>
      take (p.takePaths (first :: rest.takeWhile Argument.isPathLike))
        (rest.dropWhile Argument.isPathLike)
termination_by arguments.length
decreasing_by
  all_goals simp only [List.length_cons]
  any_goals omega
  have := (List.dropWhile_suffix (l := rest) Argument.isPathLike).length_le
  omega

end Progress

/-- Reads the arguments of the command line. -/
def Settings.parse (arguments : List String) : Except Refusal Settings := do
  let p ← Progress.start.take (Argument.classify arguments)
  if p.surplus || p.settings.paths.isEmpty then throw .mistake
  return p.settings

end ResourceAudit.CommandLine
