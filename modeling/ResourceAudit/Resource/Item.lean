import ResourceAudit.Declaration.Mode

/-!
# Resource items

A base entry that passed its checks, with what its comment declared. Wrapper
code is generated from items, and localized entries are verified against them; a
localized entry never makes an item of its own.
-/

namespace ResourceAudit

/-- The type of every entry that is no include. -/
def stringType : String := "string"

structure Item where
  name : String
  value : String
  type : String
  mode : Mode
  /-- The distinct placeholder indexes of the base value, ascending. -/
  placeholders : List Nat
deriving DecidableEq, Repr

namespace Item

def isString (i : Item) : Bool :=
  i.type == stringType

/-- Whether a formatting function is generated for the item. -/
def isFunction (i : Item) : Bool :=
  !i.mode.parameters.isEmpty

/-- Whether the item has a closed, non-empty set of values. -/
def isEnumeration (i : Item) : Bool :=
  !i.mode.variants.isEmpty

/-- Whether the item opted out of structural checks. -/
def isSuppressed (i : Item) : Bool :=
  i.mode == .suppressed

def parameters (i : Item) : List Parameter :=
  i.mode.parameters

def variants (i : Item) : List String :=
  i.mode.variants

/-- The indexes every localized value must use: all indexes of the declared
parameters, or those of the base value if nothing is declared. -/
def expectedPlaceholders (i : Item) : List Nat :=
  match i.mode with
  | .parameterized ps => List.range ps.length
  | _ => i.placeholders

theorem parameters_of_parameterized {i : Item} {ps : List Parameter}
    (h : i.mode = .parameterized ps) : i.parameters = ps := by
  rw [parameters, h]
  rfl

theorem parameters_of_plain {i : Item} (h : i.mode = .plain) : i.parameters = [] := by
  rw [parameters, h]
  rfl

theorem expectedPlaceholders_of_parameterized {i : Item} {ps : List Parameter}
    (h : i.mode = .parameterized ps) : i.expectedPlaceholders = List.range ps.length := by
  rw [expectedPlaceholders, h]

/-- How many lines of a value a summary looks at. -/
def summaryLines : Nat := 3

/-- Ends every line with a line feed; a carriage return ends a line too. -/
def breakLines (cs : List Char) : List (List Char) :=
  Text.pieces '\n' (cs.map fun c => if c = '\r' then '\n' else c)

/-- The lines of a summary: the first line, then those of the following two
that are not blank, all trimmed. -/
def summaryOf (cs : List Char) : List (List Char) :=
  match breakLines cs with
  | [] => []
  | first :: rest =>
      Text.trim first ::
        ((rest.take (summaryLines - 1)).map Text.trim).filter (!·.isEmpty)

/-- The value as the documentation of generated code shows it. -/
def summary (i : Item) : String :=
  String.intercalate "\n" ((summaryOf i.value.toList).map String.ofList)

/-- The parameter list of a generated signature. -/
def declaration (i : Item) : String :=
  String.intercalate ", " (i.parameters.map Parameter.declaration)

/-- The argument list of a generated call. -/
def invocation (i : Item) : String :=
  String.intercalate ", " (i.parameters.map Parameter.name)

/-- The item of a name; of several, the last. -/
def find? (name : String) (items : List Item) : Option Item :=
  items.reverse.find? (·.name == name)

end Item

end ResourceAudit
