import ResourceAudit.Check.Entry

/-!
# Verifying satellites

An entry of a satellite file is verified against the base item of its name.
The base alone decides modes, types and variants; the comment of a satellite
entry is never read.
-/

namespace ResourceAudit

/-- A localized file and its entries. -/
structure Satellite where
  file : String
  entries : List Entry
deriving DecidableEq, Repr

namespace Check

/-- What a satellite is verified against. -/
structure Reference where
  policy : Policy
  baseFile : String
  items : List Item
deriving DecidableEq, Repr

/-- How a base file without a name is called. -/
def unnamedBase : String := "<base>"

/-- A localized format string must use the indexes of the base item. Its
specifiers are checked in any case. -/
def localizedFormat (ref : Reference) (file : String) (entry : Entry) (item : Item) :
    Except Failure (List Diagnostic) :=
  let scan := Format.scan entry.value
  match scan.error with
  | some error => .ok [(scanFinding entry.name error).asError (some file)]
  | none => do
      let expected := item.expectedPlaceholders
      let mismatch :=
        if scan.usesExactly expected then [] else
          [(Finding.satellitePlaceholderMismatch entry.name ref.baseFile file expected.length
              scan.indexes).gated ref.policy (some file)]
      let found ← specifiers entry.name entry.value item.parameters (signedUses scan)
      return mismatch ++ reportAll (some file) found

/-- Verifies a localized string. -/
def localizedValue (ref : Reference) (file : String) (entry : Entry) (item : Item) :
    Except Failure (List Diagnostic) :=
  match item.mode with
  | .suppressed => .ok []
  | .enumeration variants =>
      .ok <| if Mode.allows variants entry.value then [] else
        [(Finding.satelliteValueNotInVariants entry.name entry.value file ref.baseFile
            (Mode.describe variants)).asError (some file)]
  | .plain | .parameterized _ => localizedFormat ref file entry item

/-- The type of an entry as an item would have it; none if its value is no
proper include value. -/
def entryType? (entry : Entry) : Option String :=
  if entry.isInclude then (Inclusion.parse? entry.value).map Inclusion.type else some stringType

/-- Verifies an entry against the item of its name. -/
def localizedItem (ref : Reference) (file : String) (entry : Entry) (item : Item) :
    Except Failure (List Diagnostic) :=
  match entryType? entry with
  | none => .ok [(Finding.includeValueCorrupted entry.name).asError (some file)]
  | some type =>
      if type ≠ item.type then
        .ok [(Finding.satelliteTypeMismatch entry.name ref.baseFile file).asError (some file)]
      else if entry.isInclude then .ok []
      else localizedValue ref file entry item

/-- Verifies an entry of a satellite file. -/
def localizedEntry (ref : Reference) (file : String) (entry : Entry) :
    Except Failure (List Diagnostic) :=
  match Item.find? entry.name ref.items with
  | none =>
      .ok [(Finding.satelliteOrphanResource entry.name file ref.baseFile).asWarning (some file)]
  | some item => localizedItem ref file entry item

/-- Verifies all entries of a satellite file, repeated names and all. -/
def satellite (ref : Reference) (s : Satellite) : Except Failure (List Diagnostic) :=
  (s.entries.mapM (localizedEntry ref s.file)).map List.flatten

end Check

end ResourceAudit
