import ResourceAudit.Proofs.Collection.Attempt
import ResourceAudit.Proofs.Format.Progress
import ResourceAudit.Proofs.Specifier.DateTime
import ResourceAudit.Proofs.Specifier.Duration

/-!
# Positions in patterns

Moving a position through a custom pattern comes to the same as dropping tokens from its text. A
run or a quoted literal ends at the position where the text after it begins, and so does a token
(`Dialect.nextPosition_eq`). So a check reads no character outside the pattern, and accepts what
the check of texts accepts (`exists_tests_of_loop`).
-/

namespace ResourceAudit.Pattern

/-- The position at which an end of the pattern begins. -/
def startOf (pattern rest : List Char) : Nat :=
  pattern.length - rest.length

/-! ## What is read by position -/

section Reading

variable {pattern rest cs : List Char} {c quote : Char} {position start stop : Nat}

theorem lt_length_of_drop (h : pattern.drop position = c :: cs) : position < pattern.length := by
  by_contra hle
  rw [List.drop_eq_nil_of_le (Nat.le_of_not_lt hle)] at h
  cases h

theorem startOf_of_drop (h : pattern.drop position = c :: cs) :
    startOf pattern cs = position + 1 := by
  have hlength := congrArg List.length h
  rw [List.length_drop, List.length_cons] at hlength
  have hlt := lt_length_of_drop h
  unfold startOf
  omega

theorem drop_succ (h : pattern.drop position = c :: cs) : pattern.drop (position + 1) = cs := by
  rw [← List.drop_drop, h]
  rfl

theorem exists_drop_of_lt (h : position < pattern.length) :
    ∃ c cs, pattern.drop position = c :: cs := by
  apply List.exists_cons_of_ne_nil
  rw [ne_eq, List.drop_eq_nil_iff]
  exact Nat.not_le.mpr h

theorem charAt_of_drop (h : pattern.drop position = c :: cs) : charAt pattern position = .ok c := by
  have hchar : pattern[position]? = some c := by
    rw [← List.head?_drop, h]
    rfl
  unfold charAt
  rw [hchar]

theorem length_le_of_drop_eq_nil (h : pattern.drop position = []) :
    ¬ position < pattern.length :=
  Nat.not_lt.mpr (List.drop_eq_nil_iff.mp h)

/-- Nothing follows the last character. -/
theorem length_le_of_drop_succ (h : pattern.drop position = [c]) :
    pattern.length ≤ position + 1 :=
  List.drop_eq_nil_iff.mp (drop_succ h)

/-- The text after a letter and its repetitions begins where their run ends. -/
theorem startOf_dropRun (h : pattern.drop position = c :: cs) :
    startOf pattern (dropRun c cs) = position + (runLength c cs + 1) := by
  have hrun : runLength c cs + (dropRun c cs).length = cs.length := by
    rw [runLength, dropRun, ← List.length_append, List.takeWhile_append_dropWhile]
  have hstart := startOf_of_drop h
  unfold startOf at hstart ⊢
  omega

theorem runEnd_eq (hstart : charAt pattern start = .ok c) (h : pattern.drop stop = rest) :
    runEnd pattern start stop = .ok (stop + runLength c rest) := by
  induction rest generalizing stop with
  | nil =>
      rw [runEnd, if_neg (length_le_of_drop_eq_nil h)]
      rfl
  | cons x rest ih =>
      rw [runEnd, if_pos (lt_length_of_drop h)]
      refine Attempt.bind_eq_ok.mpr ⟨x, charAt_of_drop h, ?_⟩
      refine Attempt.bind_eq_ok.mpr ⟨c, hstart, ?_⟩
      by_cases hx : x = c
      · have hlength : runLength c (x :: rest) = runLength c rest + 1 := by
          simp [runLength, hx]
        rw [if_pos hx, ih (drop_succ h), hlength]
        congr 1
        omega
      · have hlength : runLength c (x :: rest) = 0 := by
          simp [runLength, hx]
        rw [if_neg hx, hlength]
        rfl

theorem runLengthAt_eq (h : pattern.drop position = c :: cs) :
    runLengthAt pattern position = .ok (runLength c cs + 1) := by
  have hlength : runLength c (c :: cs) = runLength c cs + 1 := by
    simp [runLength]
  refine Attempt.bind_eq_ok.mpr ⟨_, runEnd_eq (charAt_of_drop h) h, ?_⟩
  rw [Nat.add_sub_cancel_left, hlength]
  rfl

/-- A literal ends where it ends in the text. A backslash at the very end leads beyond the
pattern, where nothing is read any more. -/
theorem literalEnd_eq (h : pattern.drop position = rest) :
    literalEnd pattern quote position = .ok ((afterQuoted quote rest).map (startOf pattern)) := by
  fun_induction afterQuoted quote rest generalizing position with
  | case1 =>
      rw [literalEnd, if_neg (length_le_of_drop_eq_nil h)]
      rfl
  | case2 =>
      have hbeyond : ¬ position + 2 < pattern.length := by
        have hlast := length_le_of_drop_succ h
        omega
      rw [literalEnd, if_pos (lt_length_of_drop h)]
      refine Attempt.bind_eq_ok.mpr ⟨_, charAt_of_drop h, ?_⟩
      rw [if_pos rfl, literalEnd, if_neg hbeyond]
      rfl
  | case3 c tail ih =>
      rw [literalEnd, if_pos (lt_length_of_drop h)]
      refine Attempt.bind_eq_ok.mpr ⟨_, charAt_of_drop h, ?_⟩
      rw [if_pos rfl]
      exact ih (drop_succ (drop_succ h))
  | case4 tail hescape =>
      rw [literalEnd, if_pos (lt_length_of_drop h)]
      refine Attempt.bind_eq_ok.mpr ⟨_, charAt_of_drop h, ?_⟩
      rw [if_neg hescape, if_pos rfl]
      rw [Option.map_some, startOf_of_drop h]
      rfl
  | case5 c tail hescape hquote ih =>
      rw [literalEnd, if_pos (lt_length_of_drop h)]
      refine Attempt.bind_eq_ok.mpr ⟨_, charAt_of_drop h, ?_⟩
      rw [if_neg hescape, if_neg hquote]
      exact ih (drop_succ h)

theorem quotedEnd_eq (h : pattern.drop position = quote :: cs) :
    quotedEnd pattern position = .ok ((afterQuoted quote cs).map (startOf pattern)) :=
  Attempt.bind_eq_ok.mpr ⟨quote, charAt_of_drop h, literalEnd_eq (drop_succ h)⟩

/-- A backslash that ends the pattern is stepped over, and nothing is read behind it. -/
example : quotedEnd ['\'', '\\'] 0 = .ok none := by decide +kernel

end Reading

namespace Dialect

variable {d : Dialect} {pattern cs : List Char} {c : Char} {position stop : Nat}

theorem not_letter_of_mark (d : Dialect) (h : isMark c = true) : ¬ 0 < d.runLimit c := by
  rw [d.runLimit_mark c h]
  exact Nat.lt_irrefl 0

/-! ### Where the kinds of tokens end -/

theorem nextPosition_letter (hletter : 0 < d.runLimit c)
    (h : pattern.drop position = c :: cs) :
    d.nextPosition pattern position = .ok ((d.next? c cs).map (startOf pattern)) := by
  refine Attempt.bind_eq_ok.mpr ⟨c, charAt_of_drop h, ?_⟩
  rw [if_pos hletter, next?_letter hletter]
  refine Attempt.bind_eq_ok.mpr ⟨_, runLengthAt_eq h, ?_⟩
  by_cases hrun : runLength c cs + 1 ≤ d.runLimit c
  · rw [if_neg (Nat.not_lt.mpr hrun), if_pos hrun, Option.map_some, startOf_dropRun h]
    rfl
  · rw [if_pos (Nat.lt_of_not_le hrun), if_neg hrun]
    rfl

theorem nextPosition_quote (hquote : isQuote c = true) (h : pattern.drop position = c :: cs) :
    d.nextPosition pattern position = .ok ((d.next? c cs).map (startOf pattern)) := by
  refine Attempt.bind_eq_ok.mpr ⟨c, charAt_of_drop h, ?_⟩
  rw [if_neg (d.not_letter_of_mark (by simp [isMark, hquote])), if_pos hquote,
    next?_quote hquote]
  exact quotedEnd_eq h

theorem nextPosition_percent (h : pattern.drop position = '%' :: cs) :
    d.nextPosition pattern position = .ok ((d.next? '%' cs).map (startOf pattern)) := by
  refine Attempt.bind_eq_ok.mpr ⟨'%', charAt_of_drop h, ?_⟩
  rw [if_neg (d.not_letter_of_mark rfl), if_neg (by decide), if_pos rfl, next?_percent]
  cases cs with
  | nil =>
      rw [if_pos (length_le_of_drop_succ h)]
      rfl
  | cons next after =>
      have hnext := drop_succ h
      rw [if_neg (Nat.not_le.mpr (lt_length_of_drop hnext))]
      refine Attempt.bind_eq_ok.mpr ⟨next, charAt_of_drop hnext, ?_⟩
      rw [List.head?_cons, Option.bind_some]
      by_cases hafter : d.afterPercent next = true
      · rw [if_pos hafter, if_pos hafter, Option.map_some, startOf_of_drop h]
        rfl
      · rw [if_neg hafter, if_neg hafter]
        rfl

theorem nextPosition_escape (h : pattern.drop position = '\\' :: cs) :
    d.nextPosition pattern position = .ok ((d.next? '\\' cs).map (startOf pattern)) := by
  refine Attempt.bind_eq_ok.mpr ⟨'\\', charAt_of_drop h, ?_⟩
  rw [if_neg (d.not_letter_of_mark rfl), if_neg (by decide), if_neg (by decide), if_pos rfl,
    next?_escape]
  cases cs with
  | nil =>
      rw [if_pos (length_le_of_drop_succ h)]
      rfl
  | cons escaped after =>
      have hescaped := drop_succ h
      rw [if_neg (Nat.not_le.mpr (lt_length_of_drop hescaped)), List.tail?_cons,
        Option.map_some, startOf_of_drop hescaped]
      rfl

theorem nextPosition_other (hletter : d.runLimit c = 0) (hmark : isMark c = false)
    (h : pattern.drop position = c :: cs) :
    d.nextPosition pattern position = .ok ((d.next? c cs).map (startOf pattern)) := by
  have hnot : ¬ 0 < d.runLimit c := by omega
  refine Attempt.bind_eq_ok.mpr ⟨c, charAt_of_drop h, ?_⟩
  rw [next?_other hletter hmark, if_neg hnot]
  simp only [isMark, Bool.or_eq_false_iff, beq_eq_false_iff_ne] at hmark
  obtain ⟨⟨hquote, hpercent⟩, hescape⟩ := hmark
  rw [if_neg (by simp [hquote]), if_neg hpercent, if_neg hescape]
  by_cases hbare : d.hasBare = true
  · rw [if_pos hbare, if_pos hbare, Option.map_some, startOf_of_drop h]
    rfl
  · rw [if_neg hbare, if_neg hbare]
    rfl

/-- The token at a position ends where the first token of the text from there on ends. -/
theorem nextPosition_eq (h : pattern.drop position = c :: cs) :
    d.nextPosition pattern position = .ok ((d.next? c cs).map (startOf pattern)) := by
  rcases first_cases d c with hletter | hquote | rfl | rfl | ⟨hletter, hmark⟩
  · exact nextPosition_letter hletter h
  · exact nextPosition_quote hquote h
  · exact nextPosition_percent h
  · exact nextPosition_escape h
  · exact nextPosition_other hletter hmark h

theorem next?_of_nextPosition (h : pattern.drop position = c :: cs)
    (hnext : d.nextPosition pattern position = .ok (some stop)) :
    d.next? c cs = some (pattern.drop stop) ∧ stop ≤ pattern.length := by
  rw [nextPosition_eq h, Except.ok.injEq, Option.map_eq_some_iff] at hnext
  obtain ⟨after, hafter, rfl⟩ := hnext
  obtain ⟨text, -, heq⟩ := token_of_next? hafter
  have hsuffix : after <:+ pattern := by
    apply (List.suffix_append text after).trans
    rw [← heq, ← h]
    exact List.drop_suffix position pattern
  unfold startOf
  rw [← List.suffix_iff_eq_drop.mp hsuffix]
  exact ⟨hafter, Nat.sub_le _ _⟩

theorem next?_of_nextPosition_none (h : pattern.drop position = c :: cs)
    (hnext : d.nextPosition pattern position = .ok none) : d.next? c cs = none := by
  rw [nextPosition_eq h, Except.ok.injEq, Option.map_eq_none_iff] at hnext
  exact hnext

end Dialect

/-! ## The positions of a whole check -/

section Checks

open Dialect

variable {d : Dialect} {pattern : List Char} {position stop : Nat}

/-- What is tested from a position on: the position itself, and then positions within the pattern
further and further on. -/
structure Tests (pattern : List Char) (position : Nat) (tests : List Nat) : Prop where
  within : ∀ i ∈ tests, i ≤ pattern.length
  first : tests.getLast? = some position
  onward : ∀ i ∈ tests, position ≤ i
  ascending : tests.Pairwise fun later earlier => earlier < later

theorem Tests.single (h : position ≤ pattern.length) : Tests pattern position [position] := by
  refine ⟨?_, rfl, ?_, List.pairwise_singleton _ _⟩
  · simpa using h
  · simp

/-- After a token the check goes on further ahead. -/
theorem Tests.next {tests : List Nat} (h : Tests pattern stop tests)
    (hposition : position ≤ pattern.length) (hahead : position < stop) :
    Tests pattern position (tests ++ [position]) := by
  have hall : ∀ i ∈ tests, position < i := by
    intro i hi
    exact Nat.lt_of_lt_of_le hahead (h.onward i hi)
  refine ⟨?_, List.getLast?_concat, ?_, ?_⟩
  · intro i hi
    rcases List.mem_append.mp hi with hi | hi
    · exact h.within i hi
    · rwa [List.mem_singleton.mp hi]
  · intro i hi
    rcases List.mem_append.mp hi with hi | hi
    · exact Nat.le_of_lt (hall i hi)
    · rw [List.mem_singleton.mp hi]
  · rw [List.pairwise_append]
    refine ⟨h.ascending, List.pairwise_singleton _ _, ?_⟩
    intro later hlater earlier hearlier
    rw [List.mem_singleton.mp hearlier]
    exact hall later hlater

/-- Dropping tokens by position accepts what dropping them from the text does, and then it has
come to the end of the pattern. -/
theorem exists_tests_of_loop {accepts : List Char → Bool} (hnil : accepts [] = true)
    (hcons : ∀ c cs, accepts (c :: cs) = (d.next? c cs).any accepts)
    (hposition : position ≤ pattern.length) (seen : List Nat) :
    ∃ tests, Tests pattern position tests ∧
      (accepts (pattern.drop position) = true → tests.head? = some pattern.length) ∧
      d.loop pattern position seen = .ok (accepts (pattern.drop position), tests ++ seen) := by
  -- The induction follows the loop, whose invariant is that it has not passed the end.
  fun_induction d.loop pattern position seen with
  | case1 position seen hlt e herror =>
      obtain ⟨c, cs, h⟩ := exists_drop_of_lt hlt
      rw [nextPosition_eq h] at herror
      cases herror
  | case2 position seen hlt hnone =>
      obtain ⟨c, cs, h⟩ := exists_drop_of_lt hlt
      have hrefused : accepts (pattern.drop position) = false := by
        rw [h, hcons, next?_of_nextPosition_none h hnone]
        rfl
      rw [hrefused]
      exact ⟨[position], .single hposition, nofun, rfl⟩
  | case3 position seen hlt stop hnext ih =>
      obtain ⟨c, cs, h⟩ := exists_drop_of_lt hlt
      obtain ⟨hstop, hle⟩ := next?_of_nextPosition h hnext
      have hrest : accepts (pattern.drop position) = accepts (pattern.drop stop) := by
        rw [h, hcons, hstop]
        rfl
      obtain ⟨tests, htests, hlast, hloop⟩ := ih hle
      rw [hrest]
      refine ⟨_, htests.next hposition (lt_of_nextPosition hlt hnext), ?_, ?_⟩
      · intro haccepted
        rw [List.head?_append, hlast haccepted]
        rfl
      · rw [hloop, List.append_assoc]
        rfl
  | case4 position seen hend =>
      have hlength : position = pattern.length := by omega
      rw [List.drop_eq_nil_of_le (Nat.le_of_not_lt hend), hnil, hlength]
      exact ⟨[pattern.length], .single le_rfl, fun _ => rfl, rfl⟩

/-- A check misses no character at the end of the pattern, so it has a verdict. It stays within
the pattern and gets on from test to test, from the first character to the end if it accepts. Only
a single character is looked up instead. -/
structure Proceeds (d : Dialect) (standard pattern : List Char) (accepted : Bool)
    (tests : List Nat) : Prop where
  run : d.check standard pattern = .ok (accepted, tests)
  within : ∀ i ∈ tests, i ≤ pattern.length
  first : pattern.length ≠ 1 → tests.getLast? = some 0
  last : pattern.length ≠ 1 → accepted = true → tests.head? = some pattern.length
  ascending : tests.Pairwise fun later earlier => earlier < later

theorem exists_proceeds (isPattern : List Char → Bool) {accepts : List Char → Bool}
    {standard : List Char}
    (hsingle : ∀ c, accepts [c] = standard.contains c)
    (hcustom : ∀ cs, cs.length ≠ 1 → accepts cs = isPattern cs)
    (hnil : isPattern [] = true)
    (hcons : ∀ c cs, isPattern (c :: cs) = (d.next? c cs).any isPattern) (pattern : List Char) :
    ∃ tests, Proceeds d standard pattern (accepts pattern) tests := by
  by_cases hlength : pattern.length = 1
  · obtain ⟨c, rfl⟩ := List.length_eq_one_iff.mp hlength
    refine ⟨[], ?_, ?_, ?_, ?_, List.Pairwise.nil⟩
    · rw [hsingle]
      rfl
    · simp
    · exact absurd rfl
    · exact absurd rfl
  · obtain ⟨tests, htests, hlast, hloop⟩ :=
      exists_tests_of_loop hnil hcons (Nat.zero_le pattern.length) []
    rw [List.drop_zero] at hlast hloop
    rw [hcustom pattern hlength]
    refine ⟨tests, ?_, htests.within, fun _ => htests.first, fun _ => hlast, htests.ascending⟩
    unfold Dialect.check
    split
    · exact absurd rfl hlength
    · rw [hloop, List.append_nil]

end Checks

end ResourceAudit.Pattern

/-! ## Values and patterns -/

namespace ResourceAudit

theorem DateTime.accepts_of_length_ne (standard : List Char) {cs : List Char}
    (h : cs.length ≠ 1) : accepts standard cs = isPattern cs := by
  unfold accepts
  split
  · exact absurd rfl h
  · rfl

theorem Duration.accepts_of_length_ne {cs : List Char} (h : cs.length ≠ 1) :
    accepts cs = isPattern cs := by
  unfold accepts
  split
  · exact absurd rfl h
  · rfl

theorem DateTime.exists_proceeds (standard pattern : List Char) :
    ∃ tests, Pattern.Proceeds dialect standard pattern (accepts standard pattern) tests := by
  apply Pattern.exists_proceeds isPattern
  · intro c
    rfl
  · intro cs h
    exact accepts_of_length_ne standard h
  · rw [isPattern]
  · exact isPattern_cons

theorem Duration.exists_proceeds (pattern : List Char) :
    ∃ tests, Pattern.Proceeds dialect standardFormats pattern (accepts pattern) tests := by
  apply Pattern.exists_proceeds isPattern
  · intro c
    rfl
  · intro cs h
    exact accepts_of_length_ne h
  · rw [isPattern]
  · exact isPattern_cons

/-- **Reading gets on and stays within the text.** The scan of a value makes only cursors within
the value, each segment and each item ends further ahead than it begins, and no character is
read where there is none. The same holds of the check of any pattern for dates or for durations:
its positions grow from token to token and never pass the end. -/
theorem reading_gets_on_within_text :
    (∀ value, ∃ sights, Format.Walk.Proceeds value sights) ∧
      Format.Walk.GetsOn Format.Walk.readItem ∧
      (∀ standard pattern, ∃ tests, Pattern.Proceeds DateTime.dialect standard pattern
        (DateTime.accepts standard pattern) tests) ∧
      ∀ pattern, ∃ tests, Pattern.Proceeds Duration.dialect Duration.standardFormats pattern
        (Duration.accepts pattern) tests := by
  refine ⟨Format.Walk.exists_proceeds, ?_, DateTime.exists_proceeds, Duration.exists_proceeds⟩
  intro c item d h
  exact Format.Walk.ahead_of_readItem h

end ResourceAudit
