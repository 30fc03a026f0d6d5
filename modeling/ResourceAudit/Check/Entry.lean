import ResourceAudit.Check.Policy
import ResourceAudit.Check.Specifiers
import ResourceAudit.Format.Scan
import ResourceAudit.Resource.Entry
import ResourceAudit.Resource.Item

/-!
# Checking base entries

An entry of the base file is checked against its own comment: first the
comment, then the value as a variant or as a format string, then the
placeholder indexes against the declared parameters, and last the specifiers.
An entry that has an error yields no item.
-/

namespace ResourceAudit.Check

/-- What checking one entry yields. -/
structure EntryOutcome where
  item : Option Item
  diagnostics : List Diagnostic
deriving DecidableEq, Repr

namespace EntryOutcome

def accepted (item : Item) : EntryOutcome := ⟨some item, []⟩

def rejected (file : Option String) (f : Finding) : EntryOutcome := ⟨none, [f.asError file]⟩

end EntryOutcome

/-- The finding about a refused declaration. -/
def declarationFinding (name : String) : DeclarationError → Finding
  | .empty comment => .emptyParameterDeclaration name comment
  | .bad piece => .badParameterDeclaration name piece

/-- The finding about a malformed value. -/
def scanFinding (name : String) (error : Format.ScanError) : Finding :=
  .invalidFormatItem name error.position error.problem.message

/-- The indexes of a value must be exactly those of the declared parameters. If
their numbers differ, an index beyond the declaration is named before one that
is missing. -/
def indexFinding? (name : String) (scan : Format.Scan) (declared : Nat) : Option Finding :=
  if scan.count = 0 then some (.formatItemsMissing name)
  else if scan.count ≠ declared then
    (scan.firstOutOfRange declared <|> scan.firstMissing declared).map
      (.placeholderCountMismatch name · declared)
  else (scan.firstMissing declared).map (.placeholderNotUsed name ·)

/-- The uses of a scan as signed indexes. -/
def signedUses (scan : Format.Scan) : List (Int × String) :=
  scan.uses.map fun (index, specifier) => ((index : Int), specifier)

/-- A value without declared parameters. -/
def plainEntry (policy : Policy) (file : Option String) (entry : Entry) (scan : Format.Scan) :
    EntryOutcome :=
  let item : Item := ⟨entry.name, entry.value, stringType, .plain, scan.indexes⟩
  if scan.count = 0 then .accepted item
  else
    let found := Finding.parametersDeclarationMissing entry.name
    match policy with
    | .strict => ⟨none, [found.gated policy file]⟩
    | .lenient => ⟨some item, [found.gated policy file]⟩

/-- A value with declared parameters. -/
def parameterizedEntry (file : Option String) (entry : Entry) (scan : Format.Scan)
    (parameters : List Parameter) : Except Failure EntryOutcome :=
  match indexFinding? entry.name scan parameters.length with
  | some found => .ok (.rejected file found)
  | none => do
      let found ← specifiers entry.name entry.value parameters (signedUses scan)
      let diagnostics := reportAll file found
      let item : Item :=
        ⟨entry.name, entry.value, stringType, .parameterized parameters, scan.indexes⟩
      return ⟨if isClean diagnostics then some item else none, diagnostics⟩

/-- A value whose mode is known to be neither suppressed nor an enumeration. -/
def formatEntry (policy : Policy) (file : Option String) (entry : Entry)
    (declared : Option (List Parameter)) : Except Failure EntryOutcome :=
  let scan := Format.scan entry.value
  match scan.error with
  | some error => .ok (.rejected file (scanFinding entry.name error))
  | none =>
      match declared with
      | none => .ok (plainEntry policy file entry scan)
      | some parameters => parameterizedEntry file entry scan parameters

/-- Checks a string entry. -/
def stringEntry (policy : Policy) (file : Option String) (entry : Entry) :
    Except Failure EntryOutcome :=
  match Mode.ofComment entry.comment with
  | .error refusal => .ok (.rejected file (declarationFinding entry.name refusal))
  | .ok .suppressed => .ok (.accepted ⟨entry.name, entry.value, stringType, .suppressed, []⟩)
  | .ok (.enumeration variants) =>
      if Mode.allows variants entry.value then
        .ok (.accepted ⟨entry.name, entry.value, stringType, .enumeration variants, []⟩)
      else
        .ok (.rejected file
          (.valueNotInVariants entry.name entry.value (Mode.describe variants)))
  | .ok .plain => formatEntry policy file entry none
  | .ok (.parameterized parameters) => formatEntry policy file entry (some parameters)

/-- The value of an item that stands for an included file. -/
def includeDescription (path : String) : String :=
  "content of the file: \"" ++ path ++ "\""

/-- Checks an include entry. Its comment says nothing. -/
def includeEntry (file : Option String) (entry : Entry) : EntryOutcome :=
  match Inclusion.parse? entry.value with
  | none => .rejected file (.includeValueCorrupted entry.name)
  | some inclusion =>
      .accepted ⟨entry.name, includeDescription inclusion.file, inclusion.type, .plain, []⟩

/-- Checks an entry of a base file. -/
def entry (policy : Policy) (file : Option String) (entry : Entry) :
    Except Failure EntryOutcome :=
  if entry.isInclude then .ok (includeEntry file entry) else stringEntry policy file entry

end ResourceAudit.Check
