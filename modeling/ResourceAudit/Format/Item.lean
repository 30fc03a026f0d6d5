import ResourceAudit.Format.Number

/-!
# Format items

A format item stands in braces: an index, then optionally a comma and an
alignment width, then optionally a colon and a specifier. U+0020, and no other
blank, may follow the index, surround the comma and follow the width. A
specifier is any text without braces that is not empty.
-/

namespace ResourceAudit.Format

structure Item where
  index : Nat
  specifier : Option String
deriving DecidableEq, Repr

/-- What is wrong with a malformed item. -/
inductive Problem
  | indexExpected
  | widthExpected
  | braceInSpecifier
  | specifierNotClosed
  | specifierEmpty
  | itemNotClosed
  | strayBrace
deriving DecidableEq, Repr

namespace Problem

def message : Problem → String
  | indexExpected => s!"expected placeholder index below {numberBound}"
  | widthExpected => s!"expected alignment width below {numberBound}"
  | braceInSpecifier => "unescaped '\x7b' inside format specifier"
  | specifierNotClosed => "format item is not closed with '\x7d'"
  | specifierEmpty => "format specifier after ':' is empty"
  | itemNotClosed => "expected '\x7d' to close format item"
  | strayBrace => "unexpected '\x7d' (escape as '\x7d\x7d')"

end Problem

/-- A problem, and the text that was left when it was met. -/
structure Fault where
  problem : Problem
  rest : List Char
deriving DecidableEq, Repr

def skipSpaces (cs : List Char) : List Char :=
  cs.dropWhile (· == ' ')

namespace Item

/-- The text after an optional minus sign. -/
def skipMinus : List Char → List Char
  | '-' :: rest => rest
  | cs => cs

/-- The text after an optional alignment. -/
def skipAlignment : List Char → Except Fault (List Char)
  | ',' :: rest =>
      let width := skipMinus (skipSpaces rest)
      match readNumber width with
      | some (_, after) => .ok (skipSpaces after)
      | none => .error ⟨.widthExpected, width⟩
  | cs => .ok cs

def isBrace (c : Char) : Bool :=
  c == '{' || c == '}'

/-- The specifier after a colon, up to the brace that closes the item. -/
def readSpecifier (cs : List Char) : Except Fault (String × List Char) :=
  let specifier := cs.takeWhile (!isBrace ·)
  match cs.dropWhile (!isBrace ·) with
  | [] => .error ⟨.specifierNotClosed, []⟩
  | '}' :: rest =>
      if specifier.isEmpty then .error ⟨.specifierEmpty, '}' :: rest⟩
      else .ok (String.ofList specifier, rest)
  | rest => .error ⟨.braceInSpecifier, rest⟩

/-- The rest of an item after index and alignment. -/
def readEnd : List Char → Except Fault (Option String × List Char)
  | ':' :: rest => (readSpecifier rest).map fun (specifier, rest) => (some specifier, rest)
  | '}' :: rest => .ok (none, rest)
  | rest => .error ⟨.itemNotClosed, rest⟩

/-- Reads an item after its opening brace. -/
def read (cs : List Char) : Except Fault (Item × List Char) :=
  match readNumber cs with
  | none => .error ⟨.indexExpected, cs⟩
  | some (index, rest) => do
      let rest ← skipAlignment (skipSpaces rest)
      let (specifier, rest) ← readEnd rest
      return (⟨index, specifier⟩, rest)

end Item

theorem length_skipSpaces_le (cs : List Char) : (skipSpaces cs).length ≤ cs.length :=
  (List.dropWhile_suffix _).length_le

namespace Item

theorem length_skipMinus_le (cs : List Char) : (skipMinus cs).length ≤ cs.length := by
  unfold skipMinus
  split <;> simp

theorem length_skipAlignment_le {cs rest : List Char} (h : skipAlignment cs = .ok rest) :
    rest.length ≤ cs.length := by
  unfold skipAlignment at h
  split at h
  · rename_i tail
    dsimp only at h
    split at h
    · rename_i n after hnumber
      cases h
      have h1 := length_skipSpaces_le after
      have h2 := length_readNumber_le hnumber
      have h3 := length_skipMinus_le (skipSpaces tail)
      have h4 := length_skipSpaces_le tail
      rw [List.length_cons]
      omega
    · cases h
  · cases h
    exact Nat.le_refl _

theorem length_readSpecifier_lt {cs rest : List Char} {specifier : String}
    (h : readSpecifier cs = .ok (specifier, rest)) : rest.length < cs.length := by
  unfold readSpecifier at h
  have hle := (List.dropWhile_suffix (!isBrace ·) (l := cs)).length_le
  dsimp only at h
  split at h
  · cases h
  · rename_i tail heq
    split at h
    · cases h
    · cases h
      rw [heq, List.length_cons] at hle
      omega
  · cases h

theorem length_readEnd_lt {cs rest : List Char} {specifier : Option String}
    (h : readEnd cs = .ok (specifier, rest)) : rest.length < cs.length := by
  unfold readEnd at h
  split at h
  · rename_i tail
    cases hs : readSpecifier tail with
    | error e => rw [hs] at h; cases h
    | ok pair =>
        obtain ⟨s, r⟩ := pair
        rw [hs] at h
        cases h
        have := length_readSpecifier_lt hs
        rw [List.length_cons]
        omega
  · cases h
    simp
  · cases h

/-- An item is at least as long as the brace that closes it. -/
theorem length_read_lt {cs rest : List Char} {item : Item} (h : read cs = .ok (item, rest)) :
    rest.length < cs.length := by
  unfold read at h
  split at h
  · cases h
  · rename_i index tail hnumber
    cases ha : skipAlignment (skipSpaces tail) with
    | error e => rw [ha] at h; cases h
    | ok aligned =>
        rw [ha] at h
        cases he : readEnd aligned with
        | error e =>
            simp only [bind, Except.bind, he] at h
            cases h
        | ok pair =>
            obtain ⟨specifier, r⟩ := pair
            simp only [bind, Except.bind, he, pure, Except.pure] at h
            cases h
            have h1 := length_readNumber_le hnumber
            have h2 := length_skipSpaces_le tail
            have h3 := length_skipAlignment_le ha
            have h4 := length_readEnd_lt he
            omega

end Item

end ResourceAudit.Format
