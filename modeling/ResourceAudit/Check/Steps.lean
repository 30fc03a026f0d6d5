import ResourceAudit.Check.Entry

/-!
# Checking base entries step by step

A check of an entry hands every diagnostic to a receiver as soon as it is found. The receiver
may have been given others before, and the check never looks at it: whether the entry yields an
item is decided by what each step returns. A specifier that has no effect is reported too, but
the entry still yields its item.
-/

namespace ResourceAudit.Check

/-- A check that reports to a receiver in some state, and may fail. -/
abbrev Steps (σ : Type) := StateT σ (Except Failure)

section

variable {σ : Type} (receive : σ → Diagnostic → σ) (file : Option String)

def report (d : Diagnostic) : Steps σ Unit :=
  modify (receive · d)

/-- Reports what is to be said about one specifier, and says whether it and those before are
valid. -/
def verdictInto (name value specifier : String) (parameter : Parameter) (valid : Bool) :
    Verdict → Steps σ Bool
  | .valid => return valid
  | .invalid => do
      report receive
        ((Finding.invalidFormatSpecifier name specifier parameter.name parameter.type).asError file)
      return false
  | .ineffective => do
      report receive ((Finding.specifierOnText name specifier parameter.name value).asWarning file)
      return valid

/-- Checks one use of a specifier. -/
def specifierInto (name value : String) (parameters : List Parameter) (valid : Bool)
    (use : Int × String) : Steps σ Bool := do
  match ← Parameter.bound? parameters use.1 with
  | none => return valid
  | some parameter =>
      verdictInto receive file name value use.2 parameter valid
        (← Verdict.of parameter.type use.2)

/-- Checks all uses of specifiers, the ones after an invalid specifier too. -/
def specifiersInto (name value : String) (parameters : List Parameter)
    (uses : List (Int × String)) : Steps σ Bool :=
  uses.foldlM (specifierInto receive file name value parameters) true

/-- Checks the indexes of a value against the number of declared parameters. -/
def indexesInto (name : String) (scan : Format.Scan) (declared : Nat) : Steps σ Bool :=
  match indexFinding? name scan declared with
  | some found => do
      report receive (found.asError file)
      return false
  | none => return true

/-- Checks a value without declared parameters. Under the lenient policy the entry yields an item
although a finding was reported. -/
def plainInto (policy : Policy) (e : Entry) (scan : Format.Scan) : Steps σ (Option Item) := do
  let item : Item := ⟨e.name, e.value, stringType, .plain, scan.indexes⟩
  if scan.count = 0 then
    return some item
  else
    report receive ((Finding.parametersDeclarationMissing e.name).gated policy file)
    match policy with
    | .strict => return none
    | .lenient => return some item

/-- Checks a value with declared parameters: its specifiers only if its indexes are right. -/
def parameterizedInto (e : Entry) (scan : Format.Scan) (parameters : List Parameter) :
    Steps σ (Option Item) := do
  if ← indexesInto receive file e.name scan parameters.length then
    if ← specifiersInto receive file e.name e.value parameters (signedUses scan) then
      return some ⟨e.name, e.value, stringType, .parameterized parameters, scan.indexes⟩
    else
      return none
  else
    return none

def formatInto (policy : Policy) (e : Entry) (declared : Option (List Parameter)) :
    Steps σ (Option Item) :=
  let scan := Format.scan e.value
  match scan.error with
  | some error => do
      report receive ((scanFinding e.name error).asError file)
      return none
  | none =>
      match declared with
      | none => plainInto receive file policy e scan
      | some parameters => parameterizedInto receive file e scan parameters

def stringInto (policy : Policy) (e : Entry) : Steps σ (Option Item) :=
  match Mode.ofComment e.comment with
  | .error refusal => do
      report receive ((declarationFinding e.name refusal).asError file)
      return none
  | .ok .suppressed => return some ⟨e.name, e.value, stringType, .suppressed, []⟩
  | .ok (.enumeration variants) => do
      if Mode.allows variants e.value then
        return some ⟨e.name, e.value, stringType, .enumeration variants, []⟩
      else
        report receive
          ((Finding.valueNotInVariants e.name e.value (Mode.describe variants)).asError file)
        return none
  | .ok .plain => formatInto receive file policy e none
  | .ok (.parameterized parameters) => formatInto receive file policy e (some parameters)

def includeInto (e : Entry) : Steps σ (Option Item) :=
  match Inclusion.parse? e.value with
  | none => do
      report receive ((Finding.includeValueCorrupted e.name).asError file)
      return none
  | some inclusion =>
      return some ⟨e.name, includeDescription inclusion.file, inclusion.type, .plain, []⟩

/-- Checks an entry of a base file for a receiver. -/
def entryInto (policy : Policy) (e : Entry) : Steps σ (Option Item) :=
  if e.isInclude then includeInto receive file e else stringInto receive file policy e

end

end ResourceAudit.Check
