import ResourceAudit.Text.Blank

/-!
# Type categories

How a value of a declared type may be formatted. A type name is compared
without blanks and without one trailing `?`. Keyword names, type names and
names qualified with `System.` resolve through one table; any other type is
taken for an enumeration.
-/

namespace ResourceAudit

inductive Category
  | text
  | dateTime
  | dateTimeOffset
  | numeric
  | guid
  | duration
  | enumLike
deriving DecidableEq, Repr

namespace Category

/-- A type name without blanks and without one trailing `?`. -/
def normalize (typeName : String) : String :=
  let cs := Text.withoutBlank typeName.toList
  String.ofList (if cs.getLast? = some '?' then cs.dropLast else cs)

def numericTypes : List String :=
  ["byte", "sbyte", "short", "ushort", "int", "uint", "long", "ulong",
    "float", "double", "decimal",
    "Byte", "SByte", "Int16", "UInt16", "Int32", "UInt32", "Int64", "UInt64",
    "Single", "Double", "Decimal",
    "BigInteger", "Numerics.BigInteger"]

/-- The category of a built-in type. -/
def builtin? (name : String) : Option Category :=
  if name = "string" ∨ name = "String" then some text
  else if name = "DateTime" then some dateTime
  else if name = "DateTimeOffset" then some dateTimeOffset
  else if name = "Guid" then some guid
  else if name = "TimeSpan" then some duration
  else if numericTypes.contains name then some numeric
  else none

def systemNamespace : String := "System."

/-- The name within the `System` namespace. Keywords are never qualified, so
the name must begin with a capital; those of the table are ASCII. -/
def unqualified? (name : String) : Option String :=
  match systemNamespace.toList.isPrefixOf name.toList,
      name.toList.drop systemNamespace.toList.length with
  | true, c :: rest => if c.isUpper then some (String.ofList (c :: rest)) else none
  | _, _ => none

/-- The category of a type name that is already normalized. -/
def ofNormalized (name : String) : Category :=
  (builtin? name <|> (unqualified? name).bind builtin?).getD enumLike

/-- The category of a declared parameter type. -/
def ofTypeName (typeName : String) : Category :=
  ofNormalized (normalize typeName)

end Category

end ResourceAudit
