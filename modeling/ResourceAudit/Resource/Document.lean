import ResourceAudit.Check.Event
import ResourceAudit.Diagnostic.Finding
import ResourceAudit.Failure
import ResourceAudit.Platform
import ResourceAudit.Resource.Entry

/-!
# Resource documents

Reads the entries of a resource document. Every `data` element below the root,
however deep, is an entry; it needs a `name` attribute and a `value` child, may
have a `comment` child, and has no other children. What is wrong with an entry
is reported for the file. Of repeated children the last one counts.
-/

namespace ResourceAudit

/-- Entries of a document in its order, and what was found wrong with them. -/
structure Reading where
  entries : List Entry
  result : Result
deriving DecidableEq, Repr

namespace Reading

open Markup (Node)

/-- What the children of an entry have said so far. -/
structure Fields where
  value : Option String
  comment : Option String
  findings : List Finding
deriving DecidableEq, Repr

/-- Takes in one child of an entry. A second value or comment is reported with
the text of the one before it. -/
def addChild (name : String) (fields : Fields) (child : String × Node) : Fields :=
  if child.1 = "value" then
    { fields with
      value := some child.2.content
      findings := fields.findings ++
        (fields.value.map (.resourceValueDuplicated name ·)).toList }
  else if child.1 = "comment" then
    { fields with
      comment := some child.2.content
      findings := fields.findings ++
        (fields.comment.map (.resourceCommentDuplicated name ·)).toList }
  else { fields with findings := fields.findings ++ [.unexpectedNode name child.1] }

/-- Reads one entry; none if it has no name or no value. -/
def entryOf (node : Node) : Option Entry × List Finding :=
  match node.attribute? "name" with
  | none => (none, [.resourceNameMissing])
  | some name =>
      let name := Text.strip name
      let fields := node.taggedChildren.foldl (addChild name) ⟨none, none, []⟩
      match fields.value with
      | none => (none, fields.findings ++ [.resourceValueMissing name])
      | some value =>
          (some ⟨name, value, fields.comment, (node.attribute? "type").map Text.strip⟩,
            fields.findings)

/-- Diagnostics of findings, each with its own severity. -/
def reported (file : String) (findings : List Finding) : List Diagnostic :=
  findings.map fun f => f.diagnostic.reported f.severity (some file)

def rootTag : String := "root"

def entryTag : String := "data"

/-- Reads the entries of a document tree. The root must be right, or nothing is
read at all. -/
def ofTree (file : String) (root : Node) : Reading :=
  if root.tag? ≠ some rootTag then
    ⟨[], .ofDiagnostics (reported file [.rootElementInvalid (root.tag?.getD "")])⟩
  else
    let read := (root.elements entryTag).map entryOf
    ⟨read.filterMap Prod.fst, .ofDiagnostics (reported file (read.map Prod.snd).flatten)⟩

/-- What a document turned out to be. -/
inductive Outcome
  | unreadable (reason : String)
  | read (reading : Reading)
deriving DecidableEq, Repr

/-- Reads a document. One that is not well formed is unreadable; a declared encoding
that is of no use may be a failure. -/
def ofSource (platform : Platform) (file : String) (source : Markup.Source) :
    Except Failure Outcome :=
  (source.parse platform.codecs).map fun
    | .ok root => .read (ofTree file root)
    | .error fault => .unreadable (fault.messageAt (platform.faultAt source))

/-- The progress line about a document, unless its root was wrong. -/
def progress (file : String) (reading : Reading) : List Event :=
  if reading.result.errors.any (·.code == .rootElementInvalid) then []
  else [.log ⟨.debug, .reading, s!"Read {reading.entries.length} entries from {file}"⟩]

end Reading

end ResourceAudit
