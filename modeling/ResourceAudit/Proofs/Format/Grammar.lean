import ResourceAudit.Format.Item
import ResourceAudit.Proofs.Text.Run

/-!
# The grammar of values

A value is a sequence of segments: a character that is no brace, a doubled brace,
or a format item. The types below hold exactly the well-formed segments, blanks and
leading zeros included, so a list of segments is a reading of the text it renders.

No text has two readings (`render_injective`). The reason is the same at every
layer: a run of characters of one class ends where a character outside the class
follows, and each part of an item is followed by such a character.
-/

namespace ResourceAudit.Format

open Text (Stops stops_cons run_append_inj)

/-! ## Segments -/

/-- A run of digits that denotes a number below the bound. -/
@[ext]
structure Numeral where
  digits : List Char
  digits_ne_nil : digits ≠ []
  isDigit_of_mem : ∀ c ∈ digits, c.isDigit = true
  value_lt : Text.Decimal.value digits < numberBound

def Numeral.value (n : Numeral) : Nat :=
  Text.Decimal.value n.digits

theorem zero_ne_nil : ['0'] ≠ [] := List.cons_ne_nil _ _

theorem isDigit_of_mem_zero : ∀ c ∈ ['0'], c.isDigit = true := by simp

theorem zero_lt_numberBound : Text.Decimal.value ['0'] < numberBound := by decide

/-- An alignment: spaces after the comma, an optional minus sign, the width, and
spaces after the width. -/
@[ext]
structure Alignment where
  gap : Nat
  minus : Bool
  width : Numeral
  trail : Nat

/-- A text that is not empty and has no braces. -/
@[ext]
structure SpecifierText where
  chars : List Char
  chars_ne_nil : chars ≠ []
  no_brace : ∀ c ∈ chars, c ≠ '{' ∧ c ≠ '}'

/-- What stands between the braces of an item. -/
@[ext]
structure ItemText where
  index : Numeral
  gap : Nat
  alignment : Option Alignment
  specifier : Option SpecifierText

inductive Segment where
  | literal (c : Char) (not_open : c ≠ '{') (not_close : c ≠ '}')
  | openBraces
  | closeBraces
  | item (text : ItemText)

/-! ## Their text -/

def spaces (n : Nat) : List Char :=
  List.replicate n ' '

def minusText (minus : Bool) : List Char :=
  if minus then ['-'] else []

def Alignment.text (a : Alignment) : List Char :=
  ',' :: (spaces a.gap ++ minusText a.minus ++ a.width.digits ++ spaces a.trail)

def alignmentText : Option Alignment → List Char
  | none => []
  | some a => a.text

def specifierText : Option SpecifierText → List Char
  | none => []
  | some s => ':' :: s.chars

def SpecifierText.string (s : SpecifierText) : String :=
  String.ofList s.chars

namespace ItemText

def body (t : ItemText) : List Char :=
  t.index.digits ++ spaces t.gap ++ alignmentText t.alignment ++ specifierText t.specifier

/-- The item a text stands for. -/
def item (t : ItemText) : Item :=
  ⟨t.index.value, t.specifier.map SpecifierText.string⟩

end ItemText

namespace Segment

def text : Segment → List Char
  | literal c _ _ => [c]
  | openBraces => ['{', '{']
  | closeBraces => ['}', '}']
  | item t => '{' :: (t.body ++ ['}'])

def item? : Segment → Option Item
  | item t => some t.item
  | _ => none

end Segment

/-- The text of a sequence of segments. -/
def render (segments : List Segment) : List Char :=
  segments.flatMap Segment.text

/-- The items of a sequence of segments. -/
def items (segments : List Segment) : List Item :=
  segments.filterMap Segment.item?

@[simp]
theorem render_nil : render [] = [] := rfl

@[simp]
theorem render_cons (s : Segment) (rest : List Segment) :
    render (s :: rest) = s.text ++ render rest := rfl

@[simp]
theorem items_nil : items [] = [] := rfl

theorem items_cons (s : Segment) (rest : List Segment) :
    items (s :: rest) = s.item?.toList ++ items rest := by
  cases s <;> rfl

/-! ## What stops a run -/

def isSpace (c : Char) : Bool :=
  c == ' '

theorem isDigit_ne {c d : Char} (hd : d.isDigit = false) (h : c.isDigit = true) :
    (c == d) = false := by
  by_contra hc
  rw [Bool.not_eq_false, beq_iff_eq] at hc
  subst hc
  rw [h] at hd
  exact Bool.noConfusion hd

theorem isSpace_of_mem_spaces {n : Nat} : ∀ c ∈ spaces n, isSpace c = true := by
  intro c hc
  rw [List.eq_of_mem_replicate hc]
  rfl

/-- Digits stop every class that has no digits. -/
theorem stops_digits {p : Char → Bool} (hp : ∀ c, c.isDigit = true → p c = false)
    (n : Numeral) (rest : List Char) : Stops p (n.digits ++ rest) := by
  obtain ⟨c, cs, hcs⟩ := List.exists_cons_of_ne_nil n.digits_ne_nil
  rw [hcs, List.cons_append, stops_cons]
  exact hp c (n.isDigit_of_mem c (by rw [hcs]; exact List.mem_cons_self))

theorem stops_spaces {p : Char → Bool} (hp : p ' ' = false) (n : Nat) {rest : List Char}
    (hrest : Stops p rest) : Stops p (spaces n ++ rest) := by
  cases n with
  | zero => exact hrest
  | succ n =>
      rw [spaces, List.replicate_succ, List.cons_append, stops_cons]
      exact hp

/-- The parts of an alignment in the order in which they are read. -/
theorem Alignment.text_append (a : Alignment) (rest : List Char) :
    a.text ++ rest =
      ',' :: (spaces a.gap ++ (minusText a.minus ++ (a.width.digits ++
        (spaces a.trail ++ rest)))) := by
  simp only [Alignment.text, List.cons_append, List.append_assoc]

/-- A width stops the spaces before it, with its sign or without. -/
theorem Alignment.stops_width (a : Alignment) (rest : List Char) :
    Stops isSpace (minusText a.minus ++ (a.width.digits ++ rest)) := by
  cases a.minus with
  | false => exact stops_digits (fun _ => isDigit_ne rfl) a.width rest
  | true => exact stops_cons.mpr rfl

/-- The text that can follow an alignment: a colon, or the brace that closes the
item. -/
def Closing (rest : List Char) : Prop :=
  ∃ c tail, rest = c :: tail ∧ (c = ':' ∨ c = '}')

theorem Closing.stops {p : Char → Bool} {rest : List Char} (h : Closing rest)
    (hcolon : p ':' = false) (hbrace : p '}' = false) : Stops p rest := by
  obtain ⟨c, tail, rfl, rfl | rfl⟩ := h
  · exact stops_cons.mpr hcolon
  · exact stops_cons.mpr hbrace

theorem closing_specifierText (s : Option SpecifierText) (rest : List Char) :
    Closing (specifierText s ++ '}' :: rest) := by
  cases s with
  | none => exact ⟨'}', rest, rfl, Or.inr rfl⟩
  | some s => exact ⟨':', _, rfl, Or.inl rfl⟩

/-- What follows the spaces after an index stops both digits and spaces. -/
theorem stops_alignmentText {p : Char → Bool} (a : Option Alignment) {rest : List Char}
    (hrest : Closing rest) (hcomma : p ',' = false) (hcolon : p ':' = false)
    (hbrace : p '}' = false) : Stops p (alignmentText a ++ rest) := by
  cases a with
  | none => exact hrest.stops hcolon hbrace
  | some a => exact stops_cons.mpr hcomma

/-! ## One reading only -/

theorem digits_append_inj {m n : Numeral} {r s : List Char} (hr : Stops Char.isDigit r)
    (hs : Stops Char.isDigit s) (h : m.digits ++ r = n.digits ++ s) : m = n ∧ r = s := by
  obtain ⟨hdigits, hrest⟩ := run_append_inj m.isDigit_of_mem n.isDigit_of_mem hr hs h
  exact ⟨Numeral.ext hdigits, hrest⟩

theorem spaces_append_inj {m n : Nat} {r s : List Char} (hr : Stops isSpace r)
    (hs : Stops isSpace s) (h : spaces m ++ r = spaces n ++ s) : m = n ∧ r = s := by
  obtain ⟨hspaces, hrest⟩ :=
    run_append_inj isSpace_of_mem_spaces isSpace_of_mem_spaces hr hs h
  have hlength := congrArg List.length hspaces
  rw [spaces, spaces, List.length_replicate, List.length_replicate] at hlength
  exact ⟨hlength, hrest⟩

theorem minusText_append_inj {a b : Bool} {r s : List Char} (hr : Stops (· == '-') r)
    (hs : Stops (· == '-') s) (h : minusText a ++ r = minusText b ++ s) : a = b ∧ r = s := by
  cases a <;> cases b
  · exact ⟨rfl, h⟩
  · rw [show minusText false ++ r = r from rfl] at h
    subst h
    exact absurd (stops_cons.mp hr) (by decide)
  · rw [show minusText false ++ s = s from rfl] at h
    subst h
    exact absurd (stops_cons.mp hs) (by decide)
  · exact ⟨rfl, List.tail_eq_of_cons_eq h⟩

theorem Alignment.text_append_inj {a b : Alignment} {r s : List Char} (hr : Closing r)
    (hs : Closing s) (h : a.text ++ r = b.text ++ s) : a = b ∧ r = s := by
  rw [Alignment.text_append, Alignment.text_append] at h
  -- Part by part from the left: each is a run, and what follows it stops the run.
  obtain ⟨hgap, h⟩ :=
    spaces_append_inj (a.stops_width _) (b.stops_width _) (List.cons.inj h).2
  obtain ⟨hminus, h⟩ := minusText_append_inj
    (stops_digits (fun _ => isDigit_ne rfl) a.width _)
    (stops_digits (fun _ => isDigit_ne rfl) b.width _) h
  obtain ⟨hwidth, h⟩ := digits_append_inj
    (stops_spaces rfl _ (hr.stops rfl rfl)) (stops_spaces rfl _ (hs.stops rfl rfl)) h
  obtain ⟨htrail, h⟩ := spaces_append_inj (hr.stops rfl rfl) (hs.stops rfl rfl) h
  exact ⟨Alignment.ext hgap hminus hwidth htrail, h⟩

/-- An alignment is told from its absence by the comma. -/
theorem Alignment.not_closing (a : Alignment) (rest : List Char) :
    ¬ Closing (a.text ++ rest) := by
  rintro ⟨c, tail, hc, hcases⟩
  have hhead : ',' = c := (List.cons.inj hc).1
  subst hhead
  exact absurd hcases (by decide)

theorem alignmentText_append_inj {a b : Option Alignment} {r s : List Char} (hr : Closing r)
    (hs : Closing s) (h : alignmentText a ++ r = alignmentText b ++ s) : a = b ∧ r = s := by
  cases a with
  | none =>
      cases b with
      | none => exact ⟨rfl, h⟩
      | some b =>
          have hr' : Closing (b.text ++ s) := h ▸ hr
          exact absurd hr' (b.not_closing s)
  | some a =>
      cases b with
      | none =>
          have hs' : Closing (a.text ++ r) := h.symm ▸ hs
          exact absurd hs' (a.not_closing r)
      | some b =>
          obtain ⟨hab, hrest⟩ := Alignment.text_append_inj hr hs h
          exact ⟨congrArg some hab, hrest⟩

theorem SpecifierText.notBrace_of_mem (s : SpecifierText) :
    ∀ c ∈ s.chars, (!Item.isBrace c) = true := by
  intro c hc
  obtain ⟨hopen, hclose⟩ := s.no_brace c hc
  simp [Item.isBrace, hopen, hclose]

theorem specifierText_append_inj {a b : Option SpecifierText} {r s : List Char}
    (h : specifierText a ++ '}' :: r = specifierText b ++ '}' :: s) : a = b ∧ r = s := by
  cases a with
  | none =>
      cases b with
      | none => exact ⟨rfl, (List.cons.inj h).2⟩
      | some b => exact absurd (List.cons.inj h).1 (by decide)
  | some a =>
      cases b with
      | none => exact absurd (List.cons.inj h).1 (by decide)
      | some b =>
          obtain ⟨hchars, hrest⟩ := run_append_inj a.notBrace_of_mem b.notBrace_of_mem
            (stops_cons.mpr rfl) (stops_cons.mpr rfl) (List.cons.inj h).2
          exact ⟨congrArg some (SpecifierText.ext hchars), (List.cons.inj hrest).2⟩

/-- The parts of an item in the order in which they are read. -/
theorem ItemText.body_append (t : ItemText) (rest : List Char) :
    t.body ++ rest =
      t.index.digits ++ (spaces t.gap ++ (alignmentText t.alignment ++
        (specifierText t.specifier ++ rest))) := by
  simp only [ItemText.body, List.append_assoc]

theorem body_append_inj {t u : ItemText} {r s : List Char}
    (h : t.body ++ '}' :: r = u.body ++ '}' :: s) : t = u ∧ r = s := by
  rw [ItemText.body_append, ItemText.body_append] at h
  have ht := closing_specifierText t.specifier r
  have hu := closing_specifierText u.specifier s
  obtain ⟨hindex, h⟩ := digits_append_inj
    (stops_spaces rfl _ (stops_alignmentText t.alignment ht rfl rfl rfl))
    (stops_spaces rfl _ (stops_alignmentText u.alignment hu rfl rfl rfl)) h
  obtain ⟨hgap, h⟩ := spaces_append_inj
    (stops_alignmentText t.alignment ht rfl rfl rfl)
    (stops_alignmentText u.alignment hu rfl rfl rfl) h
  obtain ⟨halignment, h⟩ := alignmentText_append_inj ht hu h
  obtain ⟨hspecifier, h⟩ := specifierText_append_inj h
  exact ⟨ItemText.ext hindex hgap halignment hspecifier, h⟩

/-- An item begins with a digit, so its opening brace is not a doubled one. -/
theorem body_append_ne_open (t : ItemText) (rest tail : List Char) :
    t.body ++ rest ≠ '{' :: tail := by
  intro h
  have hstops : Stops (· == '{') (t.body ++ rest) := by
    rw [ItemText.body_append]
    exact stops_digits (fun _ => isDigit_ne rfl) t.index _
  rw [h] at hstops
  exact absurd (stops_cons.mp hstops) (by decide)

theorem Segment.item_text_append (t : ItemText) (rest : List Char) :
    (Segment.item t).text ++ rest = '{' :: (t.body ++ '}' :: rest) := by
  simp [Segment.text]

theorem Segment.text_append_inj {a b : Segment} {r s : List Char}
    (h : a.text ++ r = b.text ++ s) : a = b ∧ r = s := by
  -- The first character tells the kinds apart, and after an opening brace the second.
  cases a with
  | literal c hc hc' =>
      cases b with
      | literal d _ _ =>
          obtain ⟨rfl, hrest⟩ := List.cons.inj h
          exact ⟨rfl, hrest⟩
      | openBraces => exact absurd (List.cons.inj h).1 hc
      | closeBraces => exact absurd (List.cons.inj h).1 hc'
      | item u => exact absurd (List.cons.inj h).1 hc
  | openBraces =>
      cases b with
      | literal d hd _ => exact absurd (List.cons.inj h).1.symm hd
      | openBraces => exact ⟨rfl, (List.cons.inj (List.cons.inj h).2).2⟩
      | closeBraces => exact absurd (List.cons.inj h).1 (by decide)
      | item u =>
          rw [Segment.item_text_append] at h
          exact absurd (List.cons.inj h).2.symm (body_append_ne_open u _ _)
  | closeBraces =>
      cases b with
      | literal d _ hd => exact absurd (List.cons.inj h).1.symm hd
      | openBraces => exact absurd (List.cons.inj h).1 (by decide)
      | closeBraces => exact ⟨rfl, (List.cons.inj (List.cons.inj h).2).2⟩
      | item u => exact absurd (List.cons.inj h).1 (by decide)
  | item t =>
      cases b with
      | literal d hd _ => exact absurd (List.cons.inj h).1.symm hd
      | openBraces =>
          rw [Segment.item_text_append] at h
          exact absurd (List.cons.inj h).2 (body_append_ne_open t _ _)
      | closeBraces => exact absurd (List.cons.inj h).1 (by decide)
      | item u =>
          rw [Segment.item_text_append, Segment.item_text_append] at h
          obtain ⟨htu, hrest⟩ := body_append_inj (List.cons.inj h).2
          exact ⟨congrArg Segment.item htu, hrest⟩

theorem Segment.text_ne_nil (s : Segment) : s.text ≠ [] := by
  cases s <;> exact List.cons_ne_nil _ _

/-- **No text has two readings.** -/
theorem render_injective {xs ys : List Segment} (h : render xs = render ys) : xs = ys := by
  induction xs generalizing ys with
  | nil =>
      cases ys with
      | nil => rfl
      | cons y ys => exact absurd (List.append_eq_nil_iff.mp h.symm).1 y.text_ne_nil
  | cons x xs ih =>
      cases ys with
      | nil => exact absurd (List.append_eq_nil_iff.mp h).1 x.text_ne_nil
      | cons y ys =>
          obtain ⟨hxy, hrest⟩ := Segment.text_append_inj h
          rw [hxy, ih hrest]

end ResourceAudit.Format
