import ResourceAudit.Proofs.Format.Number

/-!
# Scanning stays within the text

Walking through a value with a cursor yields what reading it off the text does, part by part up to
the scan of the whole value. So no character is missed at the end of the text, however the text
breaks off, and every cursor on the way stands within it.
-/

namespace ResourceAudit.Format

/-! ## What is left is an end of the text -/

section Suffixes

variable {cs rest : List Char}

theorem skipSpaces_suffix (cs : List Char) : skipSpaces cs <:+ cs :=
  List.dropWhile_suffix _

theorem suffix_of_readNumber {n : Nat} (h : readNumber cs = some (n, rest)) : rest <:+ cs := by
  rw [rest_of_readNumber h]
  exact List.dropWhile_suffix _

namespace Item

theorem skipMinus_suffix (cs : List Char) : skipMinus cs <:+ cs := by
  obtain ⟨minus, hminus⟩ := exists_minusText_of_skipMinus cs
  exact ⟨minusText minus, hminus.symm⟩

theorem suffix_of_skipAlignment (h : skipAlignment cs = .ok rest) : rest <:+ cs := by
  obtain ⟨a, rfl⟩ := exists_alignment_of_skipAlignment h
  exact List.suffix_append _ _

theorem suffix_of_read {item : Item} (h : read cs = .ok (item, rest)) : rest <:+ cs := by
  obtain ⟨t, rfl, -⟩ := exists_body_of_read h
  exact (List.suffix_cons _ rest).trans (List.suffix_append _ _)

end Item

end Suffixes

namespace Walk

open Text (Cursor)
open Text.Cursor (before)

variable {α β : Type} {text rest tail : List Char}

/-- What is read off a text, with cursors for what is left of it. -/
def placed (text : List Char) (place : α → β) : Except Fault α → Except Stop β
  | .ok a => .ok (place a)
  | .error f => .error ⟨f.problem, before text f.rest⟩

/-! ## Alignments -/

theorem exists_sign (h : rest <:+ text) :
    ∃ minus?, Yields text (expect (before text rest) '-') minus? ∧
      minus?.getD (before text rest) = before text (Item.skipMinus rest) := by
  by_cases hminus : rest.head? = some '-'
  · obtain ⟨tail, rfl⟩ := List.head?_eq_some_iff.mp hminus
    exact ⟨_, yields_expect_self h, rfl⟩
  · refine ⟨none, yields_expect_none h hminus, ?_⟩
    have hsame : Item.skipMinus rest = rest := by
      unfold Item.skipMinus
      split
      · exact absurd rfl hminus
      · rfl
    rw [hsame]
    rfl

theorem yields_skipAlignment (h : rest <:+ text) :
    Yields text (skipAlignment (before text rest))
      (placed text (before text) (Item.skipAlignment rest)) := by
  by_cases hcomma : rest.head? = some ','
  · obtain ⟨tail, rfl⟩ := List.head?_eq_some_iff.mp hcomma
    have htail : tail <:+ text := (List.suffix_cons _ tail).trans h
    have hgap : Format.skipSpaces tail <:+ text := (skipSpaces_suffix tail).trans htail
    have hwidth : Item.skipMinus (Format.skipSpaces tail) <:+ text :=
      (Item.skipMinus_suffix _).trans hgap
    obtain ⟨minus?, hminus, hsign⟩ := exists_sign hgap
    rw [Item.skipAlignment_comma]
    apply (yields_expect_self h).bind
    apply (yields_skipSpaces htail).bind
    apply hminus.bind
    rw [hsign]
    apply (yields_readNumber hwidth).bind
    cases hnumber : Format.readNumber (Item.skipMinus (Format.skipSpaces tail)) with
    | none => exact yields_pure _
    | some width =>
        have hafter : width.2 <:+ text := (suffix_of_readNumber hnumber).trans hwidth
        exact (yields_skipSpaces hafter).bind (yields_pure _)
  · have hsame : Item.skipAlignment rest = .ok rest := by
      cases rest with
      | nil => rfl
      | cons c tail =>
          apply Item.skipAlignment_other
          rintro rfl
          exact hcomma rfl
    rw [hsame]
    exact (yields_expect_none h hcomma).bind (yields_pure _)

/-! ## Specifiers -/

/-- The loop over a specifier ends at the first brace or at the end of the text. -/
theorem yields_skipSpecifier (h : rest <:+ text) :
    Yields text (skipSpecifier (before text rest))
      (if (rest.dropWhile (!Item.isBrace ·)).head? = some '{' then
        .error ⟨.braceInSpecifier, before text (rest.dropWhile (!Item.isBrace ·))⟩
      else .ok (before text (rest.dropWhile (!Item.isBrace ·)))) := by
  induction rest with
  | nil =>
      rw [skipSpecifier, dif_pos (Text.Cursor.atEnd_before_nil text)]
      exact yields_pure _
  | cons c rest ih =>
      rw [skipSpecifier, dif_neg (Text.Cursor.not_atEnd_before_cons text c rest)]
      apply (yields_current h).bind
      by_cases hclose : c = '}'
      · subst hclose
        rw [if_pos rfl]
        exact yields_pure _
      · rw [if_neg hclose]
        apply (yields_current h).bind
        by_cases hopen : c = '{'
        · subst hopen
          rw [if_pos rfl]
          exact yields_pure _
        · have hdrop : (c :: rest).dropWhile (!Item.isBrace ·) =
              rest.dropWhile (!Item.isBrace ·) :=
            List.dropWhile_cons_of_pos (by simp [Item.isBrace, hopen, hclose])
          rw [if_neg hopen, hdrop]
          apply Yields.next h
          rw [Text.Cursor.advance_before_cons h]
          exact ih ((List.suffix_cons c rest).trans h)

/-- The text between a colon and the brace that ends a specifier. -/
theorem sliceTo_braced (h : tail <:+ text) :
    (before text tail).sliceTo (before text (tail.dropWhile (!Item.isBrace ·))).position =
      tail.takeWhile (!Item.isBrace ·) := by
  have hsplit : tail.takeWhile (!Item.isBrace ·) ++ tail.dropWhile (!Item.isBrace ·) = tail :=
    List.takeWhile_append_dropWhile
  rw [← hsplit] at h
  have hslice := Text.Cursor.sliceTo_before h
  rwa [hsplit] at hslice

theorem yields_readSpecifier_none (h : rest <:+ text) (hcolon : rest.head? ≠ some ':') :
    Yields text (readSpecifier (before text rest)) (.ok (none, before text rest)) :=
  (yields_expect_none h hcolon).bind (yields_pure _)

section Colon

variable {after : List Char} (h : (':' :: tail) <:+ text)

include h

theorem yields_readSpecifier_open (hlast : tail.dropWhile (!Item.isBrace ·) = []) :
    Yields text (readSpecifier (before text (':' :: tail)))
      (.error ⟨.specifierNotClosed, before text []⟩) := by
  have hloop := yields_skipSpecifier ((List.suffix_cons _ tail).trans h)
  rw [hlast, if_neg (by simp)] at hloop
  apply (yields_expect_self h).bind
  apply hloop.bind
  dsimp only
  rw [if_pos (Text.Cursor.atEnd_before_nil text)]
  exact yields_pure _

theorem yields_readSpecifier_broken (hlast : tail.dropWhile (!Item.isBrace ·) = '{' :: after) :
    Yields text (readSpecifier (before text (':' :: tail)))
      (.error ⟨.braceInSpecifier, before text ('{' :: after)⟩) := by
  have hloop := yields_skipSpecifier ((List.suffix_cons _ tail).trans h)
  rw [hlast, List.head?_cons, if_pos rfl] at hloop
  exact (yields_expect_self h).bind (hloop.bind (yields_pure _))

theorem yields_readSpecifier_closed (hlast : tail.dropWhile (!Item.isBrace ·) = '}' :: after) :
    Yields text (readSpecifier (before text (':' :: tail)))
      (if (tail.takeWhile (!Item.isBrace ·)).isEmpty then
        .error ⟨.specifierEmpty, before text ('}' :: after)⟩
      else .ok (some (String.ofList (tail.takeWhile (!Item.isBrace ·))),
        before text ('}' :: after))) := by
  have htail : tail <:+ text := (List.suffix_cons _ tail).trans h
  have hloop := yields_skipSpecifier htail
  have hslice := sliceTo_braced htail
  rw [hlast, if_neg (by simp)] at hloop
  rw [hlast] at hslice
  apply (yields_expect_self h).bind
  apply hloop.bind
  dsimp only
  rw [if_neg (Text.Cursor.not_atEnd_before_cons text _ after), hslice]
  cases tail.takeWhile (!Item.isBrace ·) <;> exact yields_pure _

end Colon

/-- An item that was read, with a cursor for what is left. -/
def itemBefore (text : List Char) (read : Item × List Char) : Item × Cursor :=
  (read.1, before text read.2)

theorem yields_readEnd_specifier (index : Nat) (h : (':' :: tail) <:+ text) :
    Yields text (readEnd index (before text (':' :: tail)))
      (placed text (itemBefore text)
        ((Item.readEnd (':' :: tail)).map fun ended => (⟨index, ended.1⟩, ended.2))) := by
  cases hlast : tail.dropWhile (!Item.isBrace ·) with
  | nil =>
      have hread : Item.readSpecifier tail = .error ⟨.specifierNotClosed, []⟩ := by
        unfold Item.readSpecifier
        rw [hlast]
      rw [Item.readEnd, hread]
      exact (yields_readSpecifier_open h hlast).bind (yields_pure _)
  | cons c after =>
      have hbrace : c = '{' ∨ c = '}' := by
        have hstops := Text.stops_dropWhile (p := fun c => !Item.isBrace c) tail
        rw [hlast, Text.stops_cons] at hstops
        simpa [Item.isBrace, or_iff_not_imp_left] using hstops
      rcases hbrace with rfl | rfl
      · rw [Item.readEnd, Item.readSpecifier_broken (by decide) hlast]
        exact (yields_readSpecifier_broken h hlast).bind (yields_pure _)
      · have hafter : ('}' :: after) <:+ text := by
          rw [← hlast]
          exact (List.dropWhile_suffix _).trans ((List.suffix_cons _ tail).trans h)
        rw [Item.readEnd, Item.readSpecifier_closed hlast]
        apply (yields_readSpecifier_closed h hlast).bind
        by_cases hempty : (tail.takeWhile (!Item.isBrace ·)).isEmpty = true
        · rw [if_pos hempty, if_pos hempty]
          exact yields_pure _
        · rw [if_neg hempty, if_neg hempty]
          exact (yields_expect_self hafter).bind (yields_pure _)

theorem yields_readEnd (index : Nat) (h : rest <:+ text) :
    Yields text (readEnd index (before text rest))
      (placed text (itemBefore text)
        ((Item.readEnd rest).map fun ended => (⟨index, ended.1⟩, ended.2))) := by
  by_cases hcolon : rest.head? = some ':'
  · obtain ⟨tail, rfl⟩ := List.head?_eq_some_iff.mp hcolon
    exact yields_readEnd_specifier index h
  · apply (yields_readSpecifier_none h hcolon).bind
    by_cases hclose : rest.head? = some '}'
    · obtain ⟨tail, rfl⟩ := List.head?_eq_some_iff.mp hclose
      exact (yields_expect_self h).bind (yields_pure _)
    · have hread : Item.readEnd rest = .error ⟨.itemNotClosed, rest⟩ := by
        cases rest with
        | nil => rfl
        | cons c tail =>
            apply Item.readEnd_other
            · rintro rfl
              exact hcolon rfl
            · rintro rfl
              exact hclose rfl
      rw [hread]
      exact (yields_expect_none h hclose).bind (yields_pure _)

/-! ## Items -/

theorem yields_readItem (h : rest <:+ text) :
    Yields text (readItem (before text rest)) (placed text (itemBefore text) (Item.read rest)) := by
  have hindex := yields_readNumber h
  cases hnumber : Format.readNumber rest with
  | none =>
      rw [hnumber] at hindex
      rw [Item.read_unindexed hnumber]
      exact hindex.bind (yields_pure _)
  | some number =>
      obtain ⟨index, after⟩ := number
      have hafter : after <:+ text := (suffix_of_readNumber hnumber).trans h
      have hgap : Format.skipSpaces after <:+ text := (skipSpaces_suffix after).trans hafter
      rw [hnumber] at hindex
      rw [Item.read_indexed hnumber]
      apply hindex.bind
      apply (yields_skipSpaces hafter).bind
      apply (yields_skipAlignment hgap).bind
      cases haligned : Item.skipAlignment (Format.skipSpaces after) with
      | error f => exact yields_pure _
      | ok aligned =>
          exact yields_readEnd index ((Item.suffix_of_skipAlignment haligned).trans hgap)

/-! ## Segments -/

theorem yields_turn_literal {c : Char} (h : (c :: rest) <:+ text) (hopen : c ≠ '{')
    (hclose : c ≠ '}') :
    Yields text (turn (before text (c :: rest))) (.next none (before text rest)) := by
  apply (yields_current h).bind
  split
  · exact absurd rfl hclose
  · exact absurd rfl hopen
  · exact (yields_move h 1).bind (yields_pure _)

/-- A brace that is doubled. -/
theorem yields_turn_doubled {c : Char} (h : (c :: c :: rest) <:+ text) (hc : c = '{' ∨ c = '}') :
    Yields text (turn (before text (c :: c :: rest))) (.next none (before text rest)) := by
  apply (yields_current h).bind
  rcases hc with rfl | rfl
  all_goals
    apply (yields_peek h 1).bind
    rw [List.getElem?_cons_succ, List.getElem?_cons_zero, if_pos rfl]
    exact (yields_move h 2).bind (yields_pure _)

theorem yields_turn_stray (h : ('}' :: rest) <:+ text) (hsingle : rest.head? ≠ some '}') :
    Yields text (turn (before text ('}' :: rest)))
      (.stop ⟨.strayBrace, before text ('}' :: rest)⟩) := by
  apply (yields_current h).bind
  apply (yields_peek h 1).bind
  rw [List.getElem?_cons_succ, ← List.head?_eq_getElem?, if_neg hsingle]
  exact yields_pure _

/-- What is made of an item that was read or was not. -/
def turnOf (text : List Char) : Except Fault (Item × List Char) → Turn
  | .ok (item, after) => .next (some item) (before text after)
  | .error f => .stop ⟨f.problem, before text f.rest⟩

theorem yields_turn_item (h : ('{' :: rest) <:+ text) (hsingle : rest.head? ≠ some '{') :
    Yields text (turn (before text ('{' :: rest))) (turnOf text (Item.read rest)) := by
  have hrest : rest <:+ text := (List.suffix_cons _ rest).trans h
  apply (yields_current h).bind
  apply (yields_peek h 1).bind
  rw [List.getElem?_cons_succ, ← List.head?_eq_getElem?, if_neg hsingle]
  apply (yields_move h 1).bind
  apply (yields_readItem hrest).bind
  cases Item.read rest <;> exact yields_pure _

/-! ## Whole values -/

/-- The cursors whose position was tested for the end of the value, the latest first. -/
def tests (sights : List Sight) : List Cursor :=
  sights.filterMap fun
    | .tested c => some c
    | _ => none

/-- What is passed from an end of the text on: cursors within the text, and tests further and
further on, of which the first is made at once. -/
structure Passes (text rest : List Char) (sights : List Sight) : Prop where
  made : ∀ c, .made c ∈ sights → c.Within text
  tested : ∀ c, .tested c ∈ sights → c.Within text
  first : (tests sights).getLast? = some (before text rest)
  ascending : (tests sights).Pairwise fun later earlier => earlier.position < later.position
  onward : ∀ c ∈ tests sights, (before text rest).position ≤ c.position

theorem tests_eq_nil_of_sound {sights : List Sight} (h : ∀ s ∈ sights, Sound text s) :
    tests sights = [] := by
  apply List.filterMap_eq_nil_iff.mpr
  intro s hs
  cases h s hs <;> rfl

theorem tests_append (xs ys : List Sight) : tests (xs ++ ys) = tests xs ++ tests ys :=
  List.filterMap_append

namespace Passes

variable {inner sights : List Sight}

theorem tests_segment (hinner : ∀ s ∈ inner, Sound text s) :
    tests (inner ++ [.tested (before text rest)]) = [before text rest] := by
  rw [tests_append, tests_eq_nil_of_sound hinner]
  rfl

theorem segment (h : rest <:+ text) (hinner : ∀ s ∈ inner, Sound text s) :
    Passes text rest (inner ++ [.tested (before text rest)]) := by
  have htests : tests (inner ++ [.tested (before text rest)]) = [before text rest] :=
    tests_segment hinner
  refine ⟨?_, ?_, ?_, ?_, ?_⟩
  · intro c hc
    rcases List.mem_append.mp hc with hc | hc
    · cases hinner _ hc with
      | made hwithin => exact hwithin
    · simp at hc
  · intro c hc
    rcases List.mem_append.mp hc with hc | hc
    · cases hinner _ hc
    · rw [List.mem_singleton] at hc
      cases hc
      exact Text.Cursor.within_before h
  · rw [htests]
    rfl
  · rw [htests]
    exact List.pairwise_singleton _ _
  · rw [htests]
    simp

/-- After a segment the scan goes on with a shorter text. -/
theorem next {after : List Char} (hrest : Passes text after sights)
    (hsegment : Passes text rest (inner ++ [.tested (before text rest)]))
    (hinner : ∀ s ∈ inner, Sound text s) (hlength : after.length < rest.length) :
    Passes text rest (sights ++ (inner ++ [.tested (before text rest)])) := by
  have hposition : (before text rest).position < (before text after).position := by
    simp only [before]
    omega
  have htests : tests (sights ++ (inner ++ [.tested (before text rest)])) =
      tests sights ++ [before text rest] := by
    rw [tests_append, tests_segment hinner]
  refine ⟨?_, ?_, ?_, ?_, ?_⟩
  · intro c hc
    rcases List.mem_append.mp hc with hc | hc
    · exact hrest.made c hc
    · exact hsegment.made c hc
  · intro c hc
    rcases List.mem_append.mp hc with hc | hc
    · exact hrest.tested c hc
    · exact hsegment.tested c hc
  · rw [htests]
    exact List.getLast?_concat
  · rw [htests, List.pairwise_append]
    refine ⟨hrest.ascending, List.pairwise_singleton _ _, ?_⟩
    intro later hlater earlier hearlier
    rw [List.mem_singleton.mp hearlier]
    have honward := hrest.onward later hlater
    omega
  · rw [htests]
    intro c hc
    rcases List.mem_append.mp hc with hc | hc
    · have honward := hrest.onward c hc
      omega
    · rw [List.mem_singleton.mp hc]

end Passes

/-- The scan of what is left of a text has a result, and all is well on the way, which leads to
the end of the text unless there is a fault. -/
def Scans (text rest : List Char) (items : List Item) (fault : Option Fault) : Prop :=
  ∃ sights, Passes text rest sights ∧
    (fault = none → (tests sights).head? = some (before text [])) ∧
    ∀ seen, scanFrom (before text rest) seen =
      .ok ((items, fault.map fun f => ⟨f.problem, before text f.rest⟩), sights ++ seen)

theorem scans_nil (text : List Char) : Scans text [] [] none := by
  have hpasses : Passes text [] ([] ++ [.tested (before text [])]) :=
    .segment List.nil_suffix (by simp)
  refine ⟨_, hpasses, fun _ => rfl, ?_⟩
  intro seen
  rw [scanFrom, dif_pos (Text.Cursor.atEnd_before_nil text)]
  rfl

section Step

variable {c : Char} (h : (c :: rest) <:+ text)

include h

theorem scans_stop {f : Fault}
    (hturn : Yields text (turn (before text (c :: rest))) (.stop ⟨f.problem, before text f.rest⟩)) :
    Scans text (c :: rest) [] (some f) := by
  obtain ⟨inner, hinner, hturn⟩ := hturn
  refine ⟨_, .segment h hinner, nofun, ?_⟩
  intro seen
  rw [scanFrom, dif_neg (Text.Cursor.not_atEnd_before_cons text c rest)]
  split
  · rename_i e herror
    rw [hturn] at herror
    cases herror
  · rename_i s seen' hstop
    rw [hturn] at hstop
    cases hstop
    simp
  · rename_i item? after seen' hnext
    rw [hturn] at hnext
    cases hnext

theorem scans_next {item? : Option Item} {after : List Char} {items : List Item}
    {fault : Option Fault} (hlength : after.length < (c :: rest).length)
    (hturn : Yields text (turn (before text (c :: rest))) (.next item? (before text after)))
    (hscans : Scans text after items fault) :
    Scans text (c :: rest) (item?.toList ++ items) fault := by
  obtain ⟨inner, hinner, hturn⟩ := hturn
  obtain ⟨sights, hpasses, hlast, hscan⟩ := hscans
  have hend : fault = none →
      (tests (sights ++ (inner ++ [.tested (before text (c :: rest))]))).head? =
        some (before text []) := by
    intro hfault
    rw [tests_append, List.head?_append, hlast hfault]
    rfl
  refine ⟨_, hpasses.next (.segment h hinner) hinner hlength, hend, ?_⟩
  intro seen
  rw [scanFrom, dif_neg (Text.Cursor.not_atEnd_before_cons text c rest)]
  split
  · rename_i e herror
    rw [hturn] at herror
    cases herror
  · rename_i s seen' hstop
    rw [hturn] at hstop
    cases hstop
  · rename_i item after' seen' hnext
    rw [hturn] at hnext
    cases hnext
    rw [hscan]
    simp [Except.map]

end Step

theorem head?_ne_of_single {c : Char} (h : ∀ tail, rest ≠ c :: tail) : rest.head? ≠ some c := by
  intro hhead
  obtain ⟨tail, rfl⟩ := List.head?_eq_some_iff.mp hhead
  exact h tail rfl

/-- Walking through what is left of a text finds what scanning it finds. -/
theorem scans_scanFrom (h : rest <:+ text) :
    Scans text rest (Format.scanFrom rest).1 (Format.scanFrom rest).2 := by
  fun_induction Format.scanFrom rest with
  | case1 => exact scans_nil text
  | case2 rest ih =>
      have hrest : rest <:+ text := (List.suffix_append ['}', '}'] rest).trans h
      have hlength : rest.length < rest.length + 2 := by omega
      exact scans_next h hlength (yields_turn_doubled h (Or.inr rfl)) (ih hrest)
  | case3 rest hsingle =>
      exact scans_stop h (yields_turn_stray h (head?_ne_of_single hsingle))
  | case4 rest ih =>
      have hrest : rest <:+ text := (List.suffix_append ['{', '{'] rest).trans h
      have hlength : rest.length < rest.length + 2 := by omega
      exact scans_next h hlength (yields_turn_doubled h (Or.inl rfl)) (ih hrest)
  | case5 rest hsingle fault hread =>
      have hturn := yields_turn_item h (head?_ne_of_single hsingle)
      rw [hread] at hturn
      exact scans_stop h hturn
  | case6 rest hsingle item after hread items fault hscan ih =>
      have hrest : rest <:+ text := (List.suffix_cons _ rest).trans h
      have hturn := yields_turn_item h (head?_ne_of_single hsingle)
      rw [hread] at hturn
      have hlength := Item.length_read_lt hread
      have hafter := ih ((Item.suffix_of_read hread).trans hrest)
      rw [hscan] at hafter
      exact scans_next h (by rw [List.length_cons]; omega) hturn hafter
  | case7 c rest _ hclose _ hopen ih =>
      have hrest : rest <:+ text := (List.suffix_cons c rest).trans h
      exact scans_next h (by simp) (yields_turn_literal h hopen hclose) (ih hrest)

/-- A walk through a value misses no character at the end of the text, so it finds what the scan
finds. It stays within the value and gets on from test to test, from the first character to the
end if the value is well-formed. -/
structure Proceeds (value : String) (sights : List Sight) : Prop where
  run : (scan value).run [] = .ok (Format.scan value, sights)
  made : ∀ c, .made c ∈ sights → c.Within value.toList
  tested : ∀ c, .tested c ∈ sights → c.Within value.toList
  first : (tests sights).getLast? = some ⟨value.toList, 0⟩
  last : (Format.scan value).error = none →
    (tests sights).head? = some ⟨value.toList, value.toList.length⟩
  ascending : (tests sights).Pairwise fun later earlier => earlier.position < later.position

theorem exists_proceeds (value : String) : ∃ sights, Proceeds value sights := by
  obtain ⟨sights, hpasses, hlast, hscan⟩ := scans_scanFrom (List.suffix_refl value.toList)
  have hfirst := hpasses.first
  have hstart := hscan []
  rw [Text.Cursor.before_self] at hfirst hstart
  rw [List.append_nil] at hstart
  refine ⟨sights, ?_, hpasses.made, hpasses.tested, hfirst, ?_, hpasses.ascending⟩
  · have hposition : ∀ f : Fault, (before value.toList f.rest).position.toNat =
        value.toList.length - f.rest.length := by
      intro f
      simp only [before]
      omega
    show (scanFrom ⟨value.toList, 0⟩ []).map _ = _
    rw [hstart]
    simp [Except.map, Format.scan, Stop.error, hposition, Function.comp_def]
  · intro herror
    rw [hlast (Option.map_eq_none_iff.mp herror)]
    simp [before]

end Walk

end ResourceAudit.Format
