import ResourceAudit.Collection.Ascending
import ResourceAudit.Format.Item

/-!
# Scanning a value

A value is read left to right as literal characters, doubled braces and format
items. The first malformed item stops the scan; the items before it are kept.
What a value uses is a view of its items: the distinct indexes in ascending
order, the specifiers of an index, and the distinct pairs of an index and a
specifier in the order of their first appearance.
-/

namespace ResourceAudit.Format

/-- The items of a text up to the first fault. -/
def scanFrom : List Char → List Item × Option Fault
  | [] => ([], none)
  | '}' :: '}' :: rest => scanFrom rest
  | '}' :: rest => ([], some ⟨.strayBrace, '}' :: rest⟩)
  | '{' :: '{' :: rest => scanFrom rest
  | '{' :: rest =>
      match _hread : Item.read rest with
      | .error fault => ([], some fault)
      | .ok (item, after) =>
          let (items, fault) := scanFrom after
          (item :: items, fault)
  | _ :: rest => scanFrom rest
termination_by cs => cs.length
decreasing_by
  all_goals simp only [List.length_cons]
  any_goals omega
  have := Item.length_read_lt _hread
  omega

structure ScanError where
  problem : Problem
  /-- The offset at which scanning stopped. -/
  position : Nat
deriving DecidableEq, Repr

structure Scan where
  items : List Item
  error : Option ScanError
deriving DecidableEq, Repr

/-- Scans a value. -/
def scan (value : String) : Scan :=
  let cs := value.toList
  let (items, fault) := scanFrom cs
  ⟨items, fault.map fun f => ⟨f.problem, cs.length - f.rest.length⟩⟩

namespace Scan

/-- The distinct placeholder indexes in ascending order. -/
def indexes (s : Scan) : List Nat :=
  Ascending.ofList (s.items.map Item.index)

def count (s : Scan) : Nat :=
  s.indexes.length

/-- The distinct pairs of index and specifier in order of first appearance. -/
def uses (s : Scan) : List (Nat × String) :=
  (s.items.filterMap fun item => item.specifier.map (item.index, ·)).eraseDups

/-- The distinct specifiers an index is used with, ascending. -/
def specifiersOf (s : Scan) (index : Nat) : List String :=
  Ascending.ofList ((s.uses.filter (·.1 == index)).map Prod.snd)

/-- What is recorded for an index: nothing if it is only used bare, and otherwise
its specifiers. -/
def recorded (s : Scan) (index : Nat) : Option (List String) :=
  match s.specifiersOf index with
  | [] => none
  | specifiers => some specifiers

/-- Every index in use with what is recorded for it. -/
def placeholders (s : Scan) : List (Nat × Option (List String)) :=
  s.indexes.map fun index => (index, s.recorded index)

/-- The smallest index below a number that the value does not use. -/
def firstMissing (s : Scan) (expected : Nat) : Option Nat :=
  (List.range expected).find? (!s.indexes.contains ·)

/-- The smallest used index that is not below a number. -/
def firstOutOfRange (s : Scan) (expected : Nat) : Option Nat :=
  s.indexes.find? (expected ≤ ·)

/-- Whether the value uses exactly the given ascending indexes. -/
def usesExactly (s : Scan) (expected : List Nat) : Bool :=
  s.indexes == expected

end Scan

end ResourceAudit.Format
