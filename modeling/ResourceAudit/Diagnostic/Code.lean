/-!
# Diagnostic codes

Every kind of finding has a code. The thousands digit of its number tells the
category: structure, comment grammar, placeholder syntax, consistency, policy.
-/

namespace ResourceAudit

inductive Code
  | rootElementInvalid
  | resourceNameMissing
  | resourceValueMissing
  | resourceValueDuplicated
  | resourceCommentDuplicated
  | unexpectedNode
  | includeValueCorrupted
  | resourceNameDuplicated
  | fileUnreadable
  | badParameterDeclaration
  | emptyParameterDeclaration
  | invalidFormatItem
  | valueNotInVariants
  | placeholderCountMismatch
  | placeholderNotUsed
  | formatItemsMissing
  | invalidFormatSpecifier
  | satelliteValueNotInVariants
  | satelliteTypeMismatch
  | parametersDeclarationMissing
  | satellitePlaceholderMismatch
  | specifierOnText
  | satelliteOrphanResource
deriving DecidableEq, Repr

namespace Code

/-- All codes in ascending order of their numbers. -/
def all : List Code :=
  [rootElementInvalid, resourceNameMissing, resourceValueMissing, resourceValueDuplicated,
    resourceCommentDuplicated, unexpectedNode, includeValueCorrupted, resourceNameDuplicated,
    fileUnreadable, badParameterDeclaration, emptyParameterDeclaration, invalidFormatItem,
    valueNotInVariants, placeholderCountMismatch, placeholderNotUsed, formatItemsMissing,
    invalidFormatSpecifier, satelliteValueNotInVariants, satelliteTypeMismatch,
    parametersDeclarationMissing, satellitePlaceholderMismatch, specifierOnText,
    satelliteOrphanResource]

def number : Code → Nat
  | rootElementInvalid => 1001
  | resourceNameMissing => 1002
  | resourceValueMissing => 1003
  | resourceValueDuplicated => 1004
  | resourceCommentDuplicated => 1005
  | unexpectedNode => 1006
  | includeValueCorrupted => 1007
  | resourceNameDuplicated => 1008
  | fileUnreadable => 1009
  | badParameterDeclaration => 2001
  | emptyParameterDeclaration => 2002
  | invalidFormatItem => 3001
  | valueNotInVariants => 4001
  | placeholderCountMismatch => 4002
  | placeholderNotUsed => 4003
  | formatItemsMissing => 4004
  | invalidFormatSpecifier => 4005
  | satelliteValueNotInVariants => 4006
  | satelliteTypeMismatch => 4007
  | parametersDeclarationMissing => 5001
  | satellitePlaceholderMismatch => 5002
  | specifierOnText => 5003
  | satelliteOrphanResource => 5004

/-- The name of a code in machine-readable output. -/
def name : Code → String
  | rootElementInvalid => "ROOT_ELEMENT_INVALID"
  | resourceNameMissing => "RESOURCE_NAME_MISSING"
  | resourceValueMissing => "RESOURCE_VALUE_MISSING"
  | resourceValueDuplicated => "RESOURCE_VALUE_DUPLICATED"
  | resourceCommentDuplicated => "RESOURCE_COMMENT_DUPLICATED"
  | unexpectedNode => "UNEXPECTED_NODE"
  | includeValueCorrupted => "INCLUDE_VALUE_CORRUPTED"
  | resourceNameDuplicated => "RESOURCE_NAME_DUPLICATED"
  | fileUnreadable => "FILE_UNREADABLE"
  | badParameterDeclaration => "BAD_PARAMETER_DECLARATION"
  | emptyParameterDeclaration => "EMPTY_PARAMETER_DECLARATION"
  | invalidFormatItem => "INVALID_FORMAT_ITEM"
  | valueNotInVariants => "VALUE_NOT_IN_VARIANTS"
  | placeholderCountMismatch => "PLACEHOLDER_COUNT_MISMATCH"
  | placeholderNotUsed => "PLACEHOLDER_NOT_USED"
  | formatItemsMissing => "FORMAT_ITEMS_MISSING"
  | invalidFormatSpecifier => "INVALID_FORMAT_SPECIFIER"
  | satelliteValueNotInVariants => "SATELLITE_VALUE_NOT_IN_VARIANTS"
  | satelliteTypeMismatch => "SATELLITE_TYPE_MISMATCH"
  | parametersDeclarationMissing => "PARAMETERS_DECLARATION_MISSING"
  | satellitePlaceholderMismatch => "SATELLITE_PLACEHOLDER_MISMATCH"
  | specifierOnText => "SPECIFIER_ON_TEXT"
  | satelliteOrphanResource => "SATELLITE_ORPHAN_RESOURCE"

/-- The short form in build logs. -/
def label (c : Code) : String :=
  s!"RSX{c.number}"

/-- The code of a name. -/
def ofName? (name : String) : Option Code :=
  all.find? (·.name == name)

end Code

end ResourceAudit
