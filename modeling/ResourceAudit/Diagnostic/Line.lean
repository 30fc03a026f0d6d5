import ResourceAudit.Diagnostic.Basic
import ResourceAudit.Diagnostic.Quoted
import ResourceAudit.Text.Pieces

/-!
# Diagnostic lines

The three ways a diagnostic is printed: as a line of a build log, as a short
line without location, and as a JSON object. A line style may limit the length
of the text it quotes.
-/

namespace ResourceAudit

inductive LineFormat
  | buildLog
  | simple
  | json
deriving DecidableEq, Repr

/-- The name of a format on the command line. -/
def LineFormat.name : LineFormat → String
  | buildLog => "msbuild"
  | simple => "simple"
  | json => "json"

def LineFormat.all : List LineFormat := [.buildLog, .simple, .json]

def LineFormat.ofName? (name : String) : Option LineFormat :=
  all.find? (·.name == name)

structure LineStyle where
  format : LineFormat
  /-- The length above which texts are cut. A negative length counts from the
  end of the text. -/
  limit : Option Int
deriving DecidableEq, Repr

namespace LineStyle

def standard : LineStyle := ⟨.buildLog, none⟩

/-- A text of at most the limit is kept; of a longer one the start remains,
with three dots after it. -/
def clip (style : LineStyle) (text : String) : String :=
  match style.limit with
  | none => text
  | some limit =>
      let cs := text.toList
      if limit < cs.length then String.ofList (Text.slice 0 limit cs) ++ "..." else text

/-- The file and the only position a build log can be given. -/
def location : Option String → String
  | none | some "" => ""
  | some file => file ++ "(1,1): "

/-- The members of the JSON object, each a name and a value already written. -/
def members (style : LineStyle) (d : Diagnostic) : List (String × String) :=
  [("code", Quoted.encode d.code.name),
    ("code_value", toString d.code.number),
    ("message", Quoted.encode (style.clip d.message)),
    ("severity", Quoted.encode d.severity.name)] ++
  present "file" d.file ++ present "resource" d.resource ++ present "hint" d.hint
where
  /-- A member that is left out when it is empty. -/
  present (name : String) : Option String → List (String × String)
    | none | some "" => []
    | some text => [(name, Quoted.encode text)]

/-- A JSON object on one line. -/
def object (members : List (String × String)) : String :=
  let member (name value : String) : String := Quoted.encode name ++ ": " ++ value
  "\x7b" ++ String.intercalate ", " (members.map fun m => member m.1 m.2) ++ "\x7d"

/-- The line of a diagnostic. -/
def line (style : LineStyle) (d : Diagnostic) : String :=
  match style.format with
  | .buildLog =>
      location d.file ++ d.severity.name ++ " " ++ d.code.label ++ ": " ++ style.clip d.text
  | .simple => d.code.label ++ ": " ++ style.clip d.text
  | .json => object (style.members d)

end LineStyle

end ResourceAudit
