import ResourceAudit.Diagnostic.Basic

/-!
# Findings

Everything that can be found wrong with a resource file, and the wording of the
diagnostic that reports it.
-/

namespace ResourceAudit

inductive Finding
  | rootElementInvalid (found : String)
  | resourceNameMissing
  | resourceValueMissing (name : String)
  | resourceValueDuplicated (name value : String)
  | resourceCommentDuplicated (name comment : String)
  | unexpectedNode (name node : String)
  | resourceNameDuplicated (name : String)
  | fileUnreadable (path reason : String)
  | includeValueCorrupted (name : String)
  | badParameterDeclaration (name declaration : String)
  | emptyParameterDeclaration (name comment : String)
  | invalidFormatItem (name : String) (position : Nat) (reason : String)
  | valueNotInVariants (name value allowed : String)
  | placeholderCountMismatch (name : String) (index declared : Nat)
  | placeholderNotUsed (name : String) (index : Nat)
  | formatItemsMissing (name : String)
  | invalidFormatSpecifier (name specifier parameter type : String)
  | satelliteValueNotInVariants (name value file baseFile allowed : String)
  | satelliteTypeMismatch (name baseFile file : String)
  | parametersDeclarationMissing (name : String)
  | satellitePlaceholderMismatch (name baseFile file : String) (expected : Nat) (found : List Nat)
  | specifierOnText (name specifier parameter value : String)
  | satelliteOrphanResource (name file baseFile : String)
deriving DecidableEq, Repr

namespace Finding

def code : Finding → Code
  | rootElementInvalid .. => .rootElementInvalid
  | resourceNameMissing => .resourceNameMissing
  | resourceValueMissing .. => .resourceValueMissing
  | resourceValueDuplicated .. => .resourceValueDuplicated
  | resourceCommentDuplicated .. => .resourceCommentDuplicated
  | unexpectedNode .. => .unexpectedNode
  | resourceNameDuplicated .. => .resourceNameDuplicated
  | fileUnreadable .. => .fileUnreadable
  | includeValueCorrupted .. => .includeValueCorrupted
  | badParameterDeclaration .. => .badParameterDeclaration
  | emptyParameterDeclaration .. => .emptyParameterDeclaration
  | invalidFormatItem .. => .invalidFormatItem
  | valueNotInVariants .. => .valueNotInVariants
  | placeholderCountMismatch .. => .placeholderCountMismatch
  | placeholderNotUsed .. => .placeholderNotUsed
  | formatItemsMissing .. => .formatItemsMissing
  | invalidFormatSpecifier .. => .invalidFormatSpecifier
  | satelliteValueNotInVariants .. => .satelliteValueNotInVariants
  | satelliteTypeMismatch .. => .satelliteTypeMismatch
  | parametersDeclarationMissing .. => .parametersDeclarationMissing
  | satellitePlaceholderMismatch .. => .satellitePlaceholderMismatch
  | specifierOnText .. => .specifierOnText
  | satelliteOrphanResource .. => .satelliteOrphanResource

/-- The resource, or the kind of node, a finding is about. -/
def resource : Finding → String
  | rootElementInvalid _ => "root"
  | resourceNameMissing => "data"
  | resourceValueMissing name => name
  | resourceValueDuplicated name _ => name
  | resourceCommentDuplicated name _ => name
  | unexpectedNode name _ => name
  | resourceNameDuplicated name => name
  | fileUnreadable path _ => path
  | includeValueCorrupted name => name
  | badParameterDeclaration name _ => name
  | emptyParameterDeclaration name _ => name
  | invalidFormatItem name _ _ => name
  | valueNotInVariants name _ _ => name
  | placeholderCountMismatch name _ _ => name
  | placeholderNotUsed name _ => name
  | formatItemsMissing name => name
  | invalidFormatSpecifier name _ _ _ => name
  | satelliteValueNotInVariants name _ _ _ _ => name
  | satelliteTypeMismatch name _ _ => name
  | parametersDeclarationMissing name => name
  | satellitePlaceholderMismatch name _ _ _ _ => name
  | specifierOnText name _ _ _ => name
  | satelliteOrphanResource name _ _ => name

/-- A placeholder of an index as it stands in a value. -/
def placeholder (index : Nat) : String :=
  "\x7b" ++ toString index ++ "\x7d"

/-- The placeholders of a localized value as a message lists them. -/
def placeholders (indexes : List Nat) : String :=
  if indexes.isEmpty then "none" else String.intercalate ", " (indexes.map placeholder)

def message : Finding → String
  | rootElementInvalid found => s!"Root element is not <root> (found <{found}>)"
  | resourceNameMissing => "Resource name is missing"
  | resourceValueMissing _ => "Resource value is missing"
  | resourceValueDuplicated _ value => s!"Resource value is duplicated: {value}"
  | resourceCommentDuplicated _ comment => s!"Resource comment is duplicated: {comment}"
  | unexpectedNode _ node => s!"Unexpected node: {node}"
  | resourceNameDuplicated _ => "Resource name is duplicated in the file"
  | fileUnreadable _ reason => s!"Unable to read resource file: {reason}"
  | includeValueCorrupted _ => "Structure of the value node is corrupted"
  | badParameterDeclaration _ declaration => s!"bad parameter declaration: {declaration}"
  | emptyParameterDeclaration _ comment =>
      s!"invalid parameter declaration found in the comment: {comment}"
  | invalidFormatItem _ position reason =>
      s!"invalid format item at position {position}: {reason}"
  | valueNotInVariants _ value allowed =>
      s!"provided value '{value}' is not in the list of allowed options: {allowed}"
  | placeholderCountMismatch _ index declared =>
      "the number of format placeholders in the string doesn't match number of parameters " ++
        s!"listed in the comment: placeholder '{placeholder index}' " ++
        s!"(declared parameters: {declared})"
  | placeholderNotUsed name index =>
      s!"'{name}' format placeholder '{placeholder index}' is not used in the format string"
  | formatItemsMissing _ =>
      "no format items are used in the value, but function parameters are declared in the comment"
  | invalidFormatSpecifier _ specifier parameter type =>
      s!"format specifier ':{specifier}' is not valid for parameter '{parameter}' of type '{type}'"
  | satelliteValueNotInVariants _ value file baseFile allowed =>
      s!"provided value '{value}' in language resource file \"{file}\" doesn't match any of " ++
        s!"the allowed options defined in main resource file \"{baseFile}\": {allowed}"
  | satelliteTypeMismatch _ baseFile file =>
      s!"types of resources are different in main resource file \"{baseFile}\" " ++
        s!"and language resource file \"{file}\""
  | parametersDeclarationMissing _ =>
      "string value contains formatting placeholders, " ++
        "but the function parameters declaration is missing in the comment"
  | satellitePlaceholderMismatch _ baseFile file expected found =>
      s!"numbers of format parameters are different in the main resource file \"{baseFile}\" " ++
        s!"({expected}) and language resource file \"{file}\" (found: {placeholders found})"
  | specifierOnText _ specifier parameter value =>
      s!"format specifier ':{specifier}' cannot be used with string parameter '{parameter}'. " ++
        s!"Either remove ':{specifier}' from the format string in: '{value}' " ++
        s!"or update type of '{parameter}' in the comment of the main .resx file."
  | satelliteOrphanResource _ file baseFile =>
      s!"resource provided in language resource file \"{file}\" " ++
        s!"does not exist in the main resource file \"{baseFile}\""

/-- How to mend what was found, where there is one way. -/
def hint : Finding → Option String
  | includeValueCorrupted _ => some "Expected \"<file>;<type>, <assembly>\""
  | badParameterDeclaration .. => some "Declare parameters as \x7btype1 name1, type2 name2\x7d"
  | invalidFormatItem .. => some "Escape literal braces as \x7b\x7b and \x7d\x7d"
  | parametersDeclarationMissing _ =>
      some "Declare parameters in the comment: \x7btype1 name1, type2 name2\x7d"
  | _ => none

/-- The severity of a finding when nobody decides otherwise. -/
def severity : Finding → Severity
  | unexpectedNode .. => .warning
  | specifierOnText .. => .warning
  | satelliteOrphanResource .. => .warning
  | _ => .error

/-- The diagnostic of a finding that is not yet reported for a file. -/
def diagnostic (f : Finding) : Diagnostic :=
  ⟨f.code, f.message, some f.resource, f.severity, none, f.hint⟩

def asError (f : Finding) (file : Option String) : Diagnostic :=
  f.diagnostic.reported .error file

def asWarning (f : Finding) (file : Option String) : Diagnostic :=
  f.diagnostic.reported .warning file

end Finding

end ResourceAudit
