import Mathlib.Data.List.TakeWhile
import ResourceAudit.Diagnostic.Line
import ResourceAudit.Proofs.Text.Run
import ResourceAudit.Text.Decimal

/-!
# JSON objects

A reader for JSON, as far as objects go whose members are strings and whole numbers. A text is
first cut into tokens, between which blanks may stand; the tokens of an object are then read
member by member. The reader follows the grammar of JSON: a string holds no quote, backslash or
control that is not escaped, and a number begins with a zero only if it is zero. It refuses all
other texts, nested values among them.

Every text that is written in quotes, and every number, is one token and read as what was
written (`tokens?_encode`, `tokens?_toString`). So an object is read back as the members it was
written with (`object?_object`).
-/

namespace ResourceAudit.Json

/-- The value of a member. -/
inductive Scalar
  | string (s : String)
  | number (n : Nat)
deriving DecidableEq, Repr

inductive Token
  /-- A structural character. -/
  | mark (c : Char)
  | scalar (value : Scalar)
deriving DecidableEq, Repr

/-! ## Strings -/

def hexValue? (c : Char) : Option Nat :=
  if '0' ≤ c ∧ c ≤ '9' then some (c.toNat - '0'.toNat)
  else if 'a' ≤ c ∧ c ≤ 'f' then some (c.toNat - 'a'.toNat + 10)
  else if 'A' ≤ c ∧ c ≤ 'F' then some (c.toNat - 'A'.toNat + 10)
  else none

/-- The code unit of four hexadecimal digits. -/
def readUnit? : List Char → Option (Nat × List Char)
  | a :: b :: c :: d :: rest => do
      let a ← hexValue? a
      let b ← hexValue? b
      let c ← hexValue? c
      let d ← hexValue? d
      return (((a * 16 + b) * 16 + c) * 16 + d, rest)
  | _ => none

def isHighSurrogate (unit : Nat) : Bool :=
  0xD800 ≤ unit && unit < 0xDC00

def isLowSurrogate (unit : Nat) : Bool :=
  0xDC00 ≤ unit && unit < 0xE000

/-- The character that two code units stand for together. -/
def joinUnits (high low : Nat) : Char :=
  Char.ofNat (0x10000 + (high - 0xD800) * 0x400 + (low - 0xDC00))

/-- The character of a code unit whose second half must follow as an escape of its own. -/
def readLow? (high : Nat) : List Char → Option (Char × List Char)
  | '\\' :: 'u' :: cs => do
      let (low, rest) ← readUnit? cs
      if isLowSurrogate low then return (joinUnits high low, rest) else none
  | _ => none

/-- The character of an escape by code units. -/
def readUnits? (cs : List Char) : Option (Char × List Char) := do
  let (unit, rest) ← readUnit? cs
  if isHighSurrogate unit then readLow? unit rest
  else if isLowSurrogate unit then none
  else return (Char.ofNat unit, rest)

/-- What a character after a backslash stands for. -/
def unescape? : Char → Option Char
  | '"' => some '"'
  | '\\' => some '\\'
  | '/' => some '/'
  | 'b' => some '\x08'
  | 'f' => some '\x0c'
  | 'n' => some '\n'
  | 'r' => some '\r'
  | 't' => some '\t'
  | _ => none

/-- One character within quotes. -/
def readCharacter? : List Char → Option (Char × List Char)
  | [] => none
  | '\\' :: 'u' :: rest => readUnits? rest
  | '\\' :: c :: rest => (unescape? c).map (·, rest)
  | c :: rest => if c = '\\' ∨ c = '"' ∨ c.toNat < 0x20 then none else some (c, rest)

theorem length_readUnit?_lt {cs rest : List Char} {unit : Nat}
    (h : readUnit? cs = some (unit, rest)) : rest.length < cs.length := by
  unfold readUnit? at h
  split at h
  · simp only [Option.bind_eq_bind, Option.bind_eq_some_iff, pure, Option.some.injEq,
      Prod.mk.injEq] at h
    obtain ⟨-, -, -, -, -, -, -, -, -, rfl⟩ := h
    simp only [List.length_cons]
    omega
  · cases h

theorem length_readLow?_lt {cs rest : List Char} {high : Nat} {c : Char}
    (h : readLow? high cs = some (c, rest)) : rest.length < cs.length := by
  unfold readLow? at h
  split at h
  · rename_i tail
    obtain ⟨⟨low, after⟩, hlow, h⟩ := Option.bind_eq_some_iff.mp h
    have hlt := length_readUnit?_lt hlow
    dsimp only at h
    split at h
    · obtain ⟨-, rfl⟩ := Prod.mk.inj (Option.some.inj h)
      simp only [List.length_cons]
      omega
    · cases h
  · cases h

theorem length_readUnits?_lt {cs rest : List Char} {c : Char}
    (h : readUnits? cs = some (c, rest)) : rest.length < cs.length := by
  unfold readUnits? at h
  obtain ⟨⟨unit, after⟩, hunit, h⟩ := Option.bind_eq_some_iff.mp h
  have hlt := length_readUnit?_lt hunit
  dsimp only at h
  split at h
  · exact Nat.lt_trans (length_readLow?_lt h) hlt
  · split at h
    · cases h
    · obtain ⟨-, rfl⟩ := Prod.mk.inj (Option.some.inj h)
      exact hlt

theorem length_readCharacter?_lt {cs rest : List Char} {c : Char}
    (h : readCharacter? cs = some (c, rest)) : rest.length < cs.length := by
  unfold readCharacter? at h
  split at h
  · cases h
  · have := length_readUnits?_lt h
    simp only [List.length_cons]
    omega
  · obtain ⟨d, -, hd⟩ := Option.map_eq_some_iff.mp h
    cases hd
    simp only [List.length_cons]
    omega
  · split at h
    · cases h
    · cases h
      simp

/-- A string after its opening quote, and the text after its closing one. -/
def readString? (cs : List Char) : Option (List Char × List Char) :=
  match cs with
  | '"' :: rest => some ([], rest)
  | cs =>
      match _hread : readCharacter? cs with
      | none => none
      | some (c, rest) => (readString? rest).map fun (s, rest) => (c :: s, rest)
termination_by cs.length
decreasing_by exact length_readCharacter?_lt _hread

/-! ## Tokens -/

/-- A number, and the text after its last digit. -/
def readNumber? (cs : List Char) : Option (Nat × List Char) :=
  match cs.takeWhile Char.isDigit with
  | [] => none
  | '0' :: _ :: _ => none
  | digits => some (Text.Decimal.value digits, cs.dropWhile Char.isDigit)

def isBlank (c : Char) : Bool :=
  [' ', '\t', '\n', '\r'].contains c

def isMark (c : Char) : Bool :=
  ['{', '}', '[', ']', ':', ','].contains c

theorem length_readString?_lt {cs s rest : List Char} (h : readString? cs = some (s, rest)) :
    rest.length < cs.length := by
  fun_induction readString? cs generalizing s with
  | case1 rest =>
      cases h
      simp
  | case2 => cases h
  | case3 cs hquote c after hread ih =>
      obtain ⟨⟨tail, rest'⟩, htail, heq⟩ := Option.map_eq_some_iff.mp h
      cases heq
      exact Nat.lt_trans (ih htail) (length_readCharacter?_lt hread)

theorem length_readNumber?_lt {cs rest : List Char} {n : Nat}
    (h : readNumber? cs = some (n, rest)) : rest.length < cs.length := by
  have hlength :=
    congrArg List.length (List.takeWhile_append_dropWhile (p := Char.isDigit) (l := cs))
  rw [List.length_append] at hlength
  unfold readNumber? at h
  split at h
  · cases h
  · cases h
  · rename_i hne _
    cases h
    have hpos := List.length_pos_iff.mpr hne
    omega

/-- The tokens of a text. -/
def tokens? (cs : List Char) : Option (List Token) :=
  match cs with
  | [] => some []
  | c :: cs =>
      if isBlank c then tokens? cs
      else if isMark c then (tokens? cs).map (.mark c :: ·)
      else if c = '"' then
        match _hread : readString? cs with
        | none => none
        | some (s, rest) => (tokens? rest).map (.scalar (.string (String.ofList s)) :: ·)
      else
        match _hread : readNumber? (c :: cs) with
        | none => none
        | some (n, rest) => (tokens? rest).map (.scalar (.number n) :: ·)
termination_by cs.length
decreasing_by
  · simp
  · simp
  · have := length_readString?_lt _hread
    simp only [List.length_cons]
    omega
  · exact length_readNumber?_lt _hread

/-! ## Objects -/

/-- The members of an object after its opening brace, of which there is at least one. -/
def readMembers? : List Token → Option (List (String × Scalar))
  | [.scalar (.string name), .mark ':', .scalar value, .mark '}'] => some [(name, value)]
  | .scalar (.string name) :: .mark ':' :: .scalar value :: .mark ',' :: rest =>
      (readMembers? rest).map ((name, value) :: ·)
  | _ => none

def readObject? : List Token → Option (List (String × Scalar))
  | [.mark '{', .mark '}'] => some []
  | .mark '{' :: rest => readMembers? rest
  | _ => none

/-- The members of the object that a text stands for, in the order of the text. -/
def object? (text : String) : Option (List (String × Scalar)) :=
  (tokens? text.toList).bind readObject?

/-! ## Written tokens -/

theorem hexValue?_hexDigit {n : Nat} (h : n < 16) : hexValue? (Quoted.hexDigit n) = some n := by
  have hall : ∀ n < 16, hexValue? (Quoted.hexDigit n) = some n := by decide
  exact hall n h

theorem readUnit?_byte {n : Nat} (h : n < 256) (rest : List Char) :
    readUnit? ('0' :: '0' :: Quoted.hexDigit (n / 16) :: Quoted.hexDigit (n % 16) :: rest) =
      some (n, rest) := by
  have hzero : hexValue? '0' = some 0 := by decide
  have hhigh := hexValue?_hexDigit (n := n / 16) (by omega)
  have hlow := hexValue?_hexDigit (n := n % 16) (by omega)
  have hn : ((0 * 16 + 0) * 16 + n / 16) * 16 + n % 16 = n := by omega
  simp only [readUnit?, hzero, hhigh, hlow, Option.bind_eq_bind, Option.bind_some, hn]
  rfl

/-- A control is escaped by its code unit, which is none of a pair. -/
theorem readUnits?_control {c : Char} (h : c.toNat < 0x20) (rest : List Char) :
    readUnits? ('0' :: '0' :: Quoted.hexDigit (c.toNat / 16) :: Quoted.hexDigit (c.toNat % 16) ::
      rest) = some (c, rest) := by
  have hunit := readUnit?_byte (n := c.toNat) (by omega) rest
  have hhigh : isHighSurrogate c.toNat = false := by
    simp only [isHighSurrogate, Bool.and_eq_false_iff, decide_eq_false_iff_not]
    omega
  have hlow : isLowSurrogate c.toNat = false := by
    simp only [isLowSurrogate, Bool.and_eq_false_iff, decide_eq_false_iff_not]
    omega
  unfold readUnits?
  rw [hunit]
  simp [hhigh, hlow, Char.ofNat_toNat]

/-- A character that needs no escape is read as it is. -/
theorem readCharacter?_plain {c : Char} (hquote : c ≠ '"') (hescape : c ≠ '\\')
    (hcontrol : 0x20 ≤ c.toNat) (rest : List Char) :
    readCharacter? (c :: rest) = some (c, rest) := by
  unfold readCharacter?
  split
  · rename_i heq
    cases heq
  · rename_i heq
    exact absurd (List.cons.inj heq).1 hescape
  · rename_i heq
    exact absurd (List.cons.inj heq).1 hescape
  · rename_i heq
    obtain ⟨rfl, rfl⟩ := List.cons.inj heq
    rw [if_neg]
    simp only [hquote, hescape, false_or]
    omega

/-- A character is written as it is, by a letter of its own or by its code unit. -/
theorem escape_cases (c : Char) :
    (Quoted.escape c = [c] ∧ c ≠ '"' ∧ c ≠ '\\' ∧ 0x20 ≤ c.toNat) ∨
      (∃ d, Quoted.escape c = ['\\', d] ∧ unescape? d = some c) ∨
        (Quoted.escape c = ['\\', 'u', '0', '0', Quoted.hexDigit (c.toNat / 16),
          Quoted.hexDigit (c.toNat % 16)] ∧ c.toNat < 0x20) := by
  by_cases hquote : c = '"'
  · subst hquote
    exact .inr (.inl ⟨'"', rfl, rfl⟩)
  by_cases hescape : c = '\\'
  · subst hescape
    exact .inr (.inl ⟨'\\', rfl, rfl⟩)
  by_cases hfeed : c = '\n'
  · subst hfeed
    exact .inr (.inl ⟨'n', rfl, rfl⟩)
  by_cases hreturn : c = '\r'
  · subst hreturn
    exact .inr (.inl ⟨'r', rfl, rfl⟩)
  by_cases htab : c = '\t'
  · subst htab
    exact .inr (.inl ⟨'t', rfl, rfl⟩)
  by_cases hbackspace : c = '\x08'
  · subst hbackspace
    exact .inr (.inl ⟨'b', rfl, rfl⟩)
  by_cases hform : c = '\x0c'
  · subst hform
    exact .inr (.inl ⟨'f', rfl, rfl⟩)
  rw [Quoted.escape, if_neg hquote, if_neg hescape, if_neg hfeed, if_neg hreturn, if_neg htab,
    if_neg hbackspace, if_neg hform]
  by_cases hcontrol : c.toNat < 0x20
  · rw [if_pos hcontrol]
    exact .inr (.inr ⟨rfl, hcontrol⟩)
  · rw [if_neg hcontrol]
    exact .inl ⟨rfl, hquote, hescape, Nat.not_lt.mp hcontrol⟩

theorem readCharacter?_letter {c d : Char} (h : unescape? d = some c) (rest : List Char) :
    readCharacter? ('\\' :: d :: rest) = some (c, rest) := by
  rw [readCharacter?, h]
  · rfl
  · rintro rfl
    cases h

/-- A character is read back from its escape, whatever follows. -/
theorem readCharacter?_escape (c : Char) (rest : List Char) :
    readCharacter? (Quoted.escape c ++ rest) = some (c, rest) := by
  obtain ⟨h, hquote, hescape, hcontrol⟩ | ⟨d, h, hletter⟩ | ⟨h, hcontrol⟩ := escape_cases c
  · rw [h]
    exact readCharacter?_plain hquote hescape hcontrol rest
  · rw [h]
    exact readCharacter?_letter hletter rest
  · rw [h]
    exact readUnits?_control hcontrol rest

/-- No escape begins like the end of a string. -/
theorem exists_cons_escape (c : Char) : ∃ d ds, Quoted.escape c = d :: ds ∧ d ≠ '"' := by
  obtain ⟨h, hquote, -⟩ | ⟨d, h, -⟩ | ⟨h, -⟩ := escape_cases c
  · exact ⟨c, [], h, hquote⟩
  · exact ⟨'\\', [d], h, by decide⟩
  · exact ⟨'\\', _, h, by decide⟩

/-- A string goes on after a character that does not end it. -/
theorem readString?_of_readCharacter? {d c : Char} {ds rest : List Char} (hd : d ≠ '"')
    (hread : readCharacter? (d :: ds) = some (c, rest)) :
    readString? (d :: ds) = (readString? rest).map fun (s, rest) => (c :: s, rest) := by
  rw [readString?]
  · split
    · rename_i hnone
      rw [hread] at hnone
      cases hnone
    · rename_i c' rest' hsome
      rw [hread] at hsome
      cases hsome
      rfl
  · rintro rest' heq
    exact hd (List.cons.inj heq).1

theorem readString?_body (cs rest : List Char) :
    readString? (Quoted.body cs ++ '"' :: rest) = some (cs, rest) := by
  induction cs with
  | nil =>
      unfold readString?
      rfl
  | cons c cs ih =>
      have hread := readCharacter?_escape c (Quoted.body cs ++ '"' :: rest)
      obtain ⟨d, ds, hescape, hd⟩ := exists_cons_escape c
      rw [Quoted.body, List.flatMap_cons, List.append_assoc, ← Quoted.body]
      rw [hescape, List.cons_append] at hread ⊢
      rw [readString?_of_readCharacter? hd hread, ih]
      rfl

/-- A number that is written with a leading zero is zero. -/
theorem eq_zero_of_head?_toDigits {n : Nat} (h : (Nat.toDigits 10 n).head? = some '0') :
    n = 0 := by
  induction n using Nat.strongRecOn with
  | ind n ih =>
      by_cases hn : n < 10
      · rw [Nat.toDigits_of_lt_base hn] at h
        have hall : ∀ n < 10, [Nat.digitChar n].head? = some '0' → n = 0 := by decide
        exact hall n hn h
      · obtain ⟨d, ds, hfirst⟩ :=
          List.exists_cons_of_ne_nil (Nat.toDigits_ne_nil (n := n / 10) (b := 10))
        rw [Nat.toDigits_of_base_le (by decide) (by omega), hfirst] at h
        have hzero := ih (n / 10) (by omega) (by rw [hfirst]; exact h)
        omega

theorem value_toDigits (n : Nat) : Text.Decimal.value (Nat.toDigits 10 n) = n := by
  have h := Nat.ofDigitChars_ten_toDigits (n := n)
  rw [Nat.ofDigitChars_eq_foldl] at h
  exact h

theorem readNumber?_toDigits (n : Nat) {rest : List Char}
    (hrest : Text.Stops Char.isDigit rest) :
    readNumber? (Nat.toDigits 10 n ++ rest) = some (n, rest) := by
  have hdigits : ∀ c ∈ Nat.toDigits 10 n, c.isDigit = true := fun c hc =>
    Nat.isDigit_of_mem_toDigits (by decide) (by decide) hc
  unfold readNumber?
  rw [Text.takeWhile_run hdigits hrest, Text.dropWhile_run hdigits hrest]
  split
  · rename_i hnil
    exact absurd hnil Nat.toDigits_ne_nil
  · rename_i second more hzero
    have hn : n = 0 := eq_zero_of_head?_toDigits (by rw [hzero]; rfl)
    subst hn
    cases hzero
  · rw [value_toDigits]

@[simp]
theorem tokens?_nil : tokens? [] = some [] := by
  rw [tokens?]

theorem tokens?_blank {c : Char} (hc : isBlank c = true) (rest : List Char) :
    tokens? (c :: rest) = tokens? rest := by
  rw [tokens?, if_pos hc]

theorem contains_eq_false {p : Char → Bool} {cs : List Char} (h : cs.any p = false) {c : Char}
    (hc : p c = true) : cs.contains c = false := by
  rw [← Bool.not_eq_true, List.contains_iff_mem]
  intro hmem
  exact List.any_eq_false.mp h c hmem hc

theorem isBlank_of_isMark {c : Char} (h : isMark c = true) : isBlank c = false :=
  contains_eq_false (by decide) h

theorem isBlank_of_isDigit {c : Char} (h : c.isDigit = true) : isBlank c = false :=
  contains_eq_false (by decide) h

theorem isMark_of_isDigit {c : Char} (h : c.isDigit = true) : isMark c = false :=
  contains_eq_false (by decide) h

theorem tokens?_mark {c : Char} (hc : isMark c = true) (rest : List Char) :
    tokens? (c :: rest) = (tokens? rest).map (.mark c :: ·) := by
  rw [tokens?, if_neg (Bool.eq_false_iff.mp (isBlank_of_isMark hc)), if_pos hc]

/-- A text in quotes is one token, whatever follows it. -/
theorem tokens?_encode (s : String) (rest : List Char) :
    tokens? ((Quoted.encode s).toList ++ rest) =
      (tokens? rest).map (.scalar (.string s) :: ·) := by
  have hread := readString?_body s.toList rest
  rw [Quoted.encode, String.toList_ofList, List.cons_append, List.cons_append,
    List.append_assoc, List.singleton_append, tokens?, if_neg (by decide), if_neg (by decide),
    if_pos rfl]
  split
  · rename_i hnone
    rw [hread] at hnone
    cases hnone
  · rename_i s' rest' hsome
    rw [hread] at hsome
    cases hsome
    rw [String.ofList_toList]

/-- A number is one token up to what is no digit. -/
theorem tokens?_toString (n : Nat) {rest : List Char} (hrest : Text.Stops Char.isDigit rest) :
    tokens? ((toString n).toList ++ rest) = (tokens? rest).map (.scalar (.number n) :: ·) := by
  have hread := readNumber?_toDigits n hrest
  rw [Nat.toString_eq_ofList_toDigits, String.toList_ofList]
  obtain ⟨d, ds, hdigits⟩ := List.exists_cons_of_ne_nil (Nat.toDigits_ne_nil (n := n) (b := 10))
  have hd : d.isDigit = true :=
    Nat.isDigit_of_mem_toDigits (by decide) (by decide) (hdigits ▸ List.mem_cons_self)
  rw [hdigits, List.cons_append] at hread ⊢
  rw [tokens?, if_neg, if_neg, if_neg]
  · split
    · rename_i hnone
      rw [hread] at hnone
      cases hnone
    · rename_i n' rest' hsome
      rw [hread] at hsome
      cases hsome
      rfl
  · rintro rfl
    cases hd
  · exact Bool.eq_false_iff.mp (isMark_of_isDigit hd)
  · exact Bool.eq_false_iff.mp (isBlank_of_isDigit hd)

/-! ## Written objects -/

def Scalar.write : Scalar → String
  | string s => Quoted.encode s
  | number n => toString n

/-- A value is one token up to a comma or a brace. -/
theorem tokens?_write (value : Scalar) {rest : List Char}
    (hrest : Text.Stops Char.isDigit rest) :
    tokens? (value.write.toList ++ rest) = (tokens? rest).map (.scalar value :: ·) := by
  cases value with
  | string s => exact tokens?_encode s rest
  | number n => exact tokens?_toString n hrest

theorem tokens?_member (name : String) (value : Scalar) {rest : List Char}
    (hrest : Text.Stops Char.isDigit rest) :
    tokens? ((Quoted.encode name ++ ": " ++ value.write).toList ++ rest) =
      (tokens? rest).map fun tokens =>
        .scalar (.string name) :: .mark ':' :: .scalar value :: tokens := by
  have hcolon : ": ".toList = [':', ' '] := rfl
  rw [String.toList_append, String.toList_append, hcolon, List.append_assoc, List.append_assoc,
    tokens?_encode, List.cons_append, List.singleton_append, tokens?_mark (by decide),
    tokens?_blank (by decide), tokens?_write value hrest]
  simp only [Option.map_map, Function.comp_def]

/-- A member with its value written. -/
def written (m : String × Scalar) : String × String :=
  (m.1, m.2.write)

/-- The text of a member as it stands in an object. -/
def writeMember (m : String × Scalar) : String :=
  Quoted.encode m.1 ++ ": " ++ m.2.write

/-- The members of an object are read one by one up to its closing brace. -/
theorem readMembers?_written (m : String × Scalar) (ms : List (String × Scalar)) :
    (tokens? ((String.intercalate ", " ((m :: ms).map writeMember)).toList ++ ['}'])).bind
      readMembers? = some (m :: ms) := by
  induction ms generalizing m with
  | nil =>
      rw [List.map_singleton, String.intercalate_singleton, writeMember,
        tokens?_member _ _ (Text.stops_cons.mpr rfl), tokens?_mark (by decide), tokens?_nil]
      rfl
  | cons next ms ih =>
      have hcomma : ", ".toList = [',', ' '] := rfl
      have hnext := ih next
      rw [List.map_cons, List.map_cons, String.intercalate_cons_cons, ← List.map_cons,
        String.toList_append, String.toList_append, hcomma, List.append_assoc, List.append_assoc,
        writeMember, List.cons_append, List.singleton_append,
        tokens?_member _ _ (Text.stops_cons.mpr rfl), tokens?_mark (by decide),
        tokens?_blank (by decide)]
      obtain ⟨tokens, htokens, hread⟩ := Option.bind_eq_some_iff.mp hnext
      rw [htokens, Option.map_some, Option.map_some, Option.bind_some, readMembers?, hread,
        Option.map_some]

theorem readObject?_of_readMembers? {tokens : List Token} {ms : List (String × Scalar)}
    (h : readMembers? tokens = some ms) : readObject? (.mark '{' :: tokens) = some ms := by
  rw [readObject?, h]
  rintro rfl
  cases h

/-- **Objects are read back.** An object holds the members it was written with, in their order. -/
theorem object?_object (ms : List (String × Scalar)) :
    object? (LineStyle.object (ms.map written)) = some ms := by
  have hopen : "\x7b".toList = ['{'] := rfl
  have hclose : "\x7d".toList = ['}'] := rfl
  have hmembers : (ms.map written).map
      (fun m => Quoted.encode m.1 ++ ": " ++ m.2) = ms.map writeMember := List.map_map
  rw [object?, LineStyle.object, hmembers, String.toList_append, String.toList_append, hopen,
    hclose, List.append_assoc, List.singleton_append, tokens?_mark (by decide)]
  cases ms with
  | nil =>
      rw [List.map_nil, String.intercalate_nil, String.toList_empty, List.nil_append,
        tokens?_mark (by decide), tokens?_nil]
      rfl
  | cons m ms =>
      obtain ⟨tokens, htokens, hread⟩ := Option.bind_eq_some_iff.mp (readMembers?_written m ms)
      rw [htokens, Option.map_some, Option.bind_some]
      exact readObject?_of_readMembers? hread

end ResourceAudit.Json
