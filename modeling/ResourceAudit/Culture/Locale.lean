import ResourceAudit.Culture.Name
import ResourceAudit.Culture.Tables
import ResourceAudit.Text.Words

/-!
# Locales

The locales for which there is data.
-/

namespace ResourceAudit.Culture

/-- The known locales, in lower case. -/
def knownIds : List String :=
  (Text.wordsOf localeLines).map String.toLower

def languageAliases : List (String × String) := Text.mappingOf languageAliasLines

def territoryAliases : List (String × String) := Text.mappingOf territoryAliasLines

def scriptAliases : List (String × String) := Text.mappingOf scriptAliasLines

def variantAliases : List (String × String) := Text.mappingOf variantAliasLines

def likely : List (String × String) := Text.mappingOf likelyLines

/-- The parts of a locale identifier. -/
structure Locale where
  language : String
  script : Option String
  territory : Option String
  variant : Option String
deriving DecidableEq, Repr

def isAlphabetic (part : String) : Bool :=
  !part.isEmpty && part.toList.all Char.isAlpha

/-- A capital followed by small letters. -/
def titleCase (part : String) : String :=
  match part.toList with
  | [] => ""
  | c :: rest => String.ofList (c.toUpper :: rest.map Char.toLower)

/-- Four letters are a script. -/
def readScript : List String → Option String × List String
  | part :: rest =>
      if part.length = 4 && isAlphabetic part then (some (titleCase part), rest)
      else (none, part :: rest)
  | [] => (none, [])

/-- Two letters or three digits are a territory. -/
def readTerritory : List String → Option String × List String
  | part :: rest =>
      if part.length = 2 && isAlphabetic part then (some part.toUpper, rest)
      else if part.length = 3 && part.toList.all Char.isDigit then (some part, rest)
      else (none, part :: rest)
  | [] => (none, [])

/-- If a part of five or more letters follows, the last part is a variant. -/
def readVariant (parts : List String) : Option String × List String :=
  match parts, parts.getLast? with
  | next :: _, some last =>
      if 5 ≤ next.length then (some last.toUpper, parts.dropLast) else (none, parts)
  | _, _ => (none, parts)

namespace Locale

/-- Takes an identifier apart; nothing may be left over. -/
def parse? (id : String) : Option Locale :=
  match Text.splitAt '_' id with
  | [] => none
  | language :: parts =>
      let (script, parts) := readScript parts
      let (territory, parts) := readTerritory parts
      let (variant, parts) := readVariant parts
      if parts.isEmpty && isAlphabetic language then
        some ⟨language.toLower, script, territory, variant⟩
      else none

/-- The identifier of the parts that are present. -/
def id (l : Locale) : String :=
  String.intercalate "_"
    (l.language :: l.script.toList ++ l.territory.toList ++ l.variant.toList)

/-- Whether data exists for exactly these parts. -/
def isKnown (l : Locale) : Bool :=
  knownIds.contains l.id.toLower

/-- Replaces deprecated parts, and drops those that say nothing. -/
def modernize (l : Locale) : Locale where
  language := replace languageAliases l.language
  script := (l.script.map (replace scriptAliases)).filter (· ≠ "Zzzz")
  territory := (l.territory.map (replace territoryAliases)).filter (· ≠ "ZZ")
  variant := l.variant.map (replace variantAliases)
where
  replace (aliases : List (String × String)) (part : String) : String :=
    (aliases.lookup part).getD part

/-- The locale an incomplete identifier most likely means. -/
def likely? (id : String) : Option Locale :=
  (likely.lookup id).bind parse?

/-- Known with the script or without it. -/
def isKnownUpToScript (language : String) (script territory : Option String) : Bool :=
  isKnown ⟨language, script, territory, none⟩ || isKnown ⟨language, none, territory, none⟩

/-- Whether a locale is known for the parts. -/
def resolves (l : Locale) : Bool :=
  if l.isKnown then true
  else
    let l := l.modernize
    let full := (likely? l.id).any fun m => isKnownUpToScript m.language m.script m.territory
    let byLanguage :=
      (likely? l.language).any fun m => isKnownUpToScript m.language m.script l.territory
    full || byLanguage

end Locale

/-- Whether there is a locale for an identifier: as it stands, or once deprecated parts are
replaced and missing ones completed. -/
def standard : Locales := fun id =>
  (Locale.parse? id).any Locale.resolves

end ResourceAudit.Culture
