import ResourceAudit.Proofs.Text.Blank
import ResourceAudit.Proofs.Text.Pieces
import ResourceAudit.Resource.Item

/-!
# Summaries and line endings

Texts end their lines in different ways. A summary takes a carriage return for a line feed, so
it stays the same if every line feed of a value is replaced by a carriage return. If it is
replaced by a carriage return and a line feed, a blank line comes after every line but the last
and counts as a line, and the third line of the value is no longer reached
(`summary_of_ending`).
-/

namespace ResourceAudit

/-- How the lines of a text are ended. -/
inductive LineEnding
  | lineFeed
  | carriageReturn
  /-- A carriage return and a line feed. -/
  | pair
deriving DecidableEq, Repr

namespace LineEnding

def text : LineEnding → List Char
  | lineFeed => ['\n']
  | carriageReturn => ['\r']
  | pair => ['\r', '\n']

/-- A text with another ending in place of every line feed. -/
def write (ending : LineEnding) (cs : List Char) : List Char :=
  cs.flatMap fun c => if c = '\n' then ending.text else [c]

theorem write_lineFeed (cs : List Char) : lineFeed.write cs = cs := by
  have hsame : (fun c => if c = '\n' then lineFeed.text else [c]) = fun c => [c] := by
    funext c
    split
    · rename_i hfeed
      rw [hfeed]
      rfl
    · rfl
  rw [write, hsame, List.flatMap_singleton' cs]

theorem write_cons_break (ending : LineEnding) (cs : List Char) :
    ending.write ('\n' :: cs) = ending.text ++ ending.write cs := rfl

theorem write_cons_of_ne (ending : LineEnding) {c : Char} (h : c ≠ '\n') (cs : List Char) :
    ending.write (c :: cs) = c :: ending.write cs := by
  unfold write
  rw [List.flatMap_cons, if_neg h]
  rfl

end LineEnding

namespace Item

open Text (pieces cut trim allBlank)

/-- The item with another line ending in its value. -/
def ended (ending : LineEnding) (i : Item) : Item :=
  { i with value := String.ofList (ending.write i.value.toList) }

/-! ## The lines of a value -/

section Lines

variable {cs : List Char}

theorem breakLines_cons_return (cs : List Char) :
    breakLines ('\r' :: cs) = [] :: breakLines cs :=
  Text.pieces_cons_self _

theorem breakLines_cons_feed (cs : List Char) : breakLines ('\n' :: cs) = [] :: breakLines cs :=
  Text.pieces_cons_self _

/-- A character that breaks no line stands at the front of the first line. -/
theorem breakLines_cons {c : Char} {first : List Char} {rest : List (List Char)}
    (hfeed : c ≠ '\n') (hreturn : c ≠ '\r') (h : breakLines cs = first :: rest) :
    breakLines (c :: cs) = (c :: first) :: rest := by
  unfold breakLines at h ⊢
  obtain ⟨hfirst, hrest⟩ := List.cons.inj h
  rw [List.map_cons, if_neg hreturn, Text.pieces_cons_of_ne hfeed, hfirst, hrest]

/-- Every ending ends a line, and a pair of characters ends a blank one after it. -/
def linesAfter (ending : LineEnding) (line : List Char) : List (List Char) :=
  match ending with
  | .pair => [[], line]
  | _ => [line]

theorem flatMap_linesAfter {ending : LineEnding} (h : ending ≠ .pair) (lines : List (List Char)) :
    lines.flatMap (linesAfter ending) = lines := by
  cases ending with
  | lineFeed => exact List.flatMap_singleton' lines
  | carriageReturn => exact List.flatMap_singleton' lines
  | pair => exact absurd rfl h

/-- The lines of a value whose endings were replaced, from its own lines. -/
theorem breakLines_write (ending : LineEnding) (h : '\r' ∉ cs) :
    breakLines (ending.write cs) =
      (cut '\n' cs).1 :: (cut '\n' cs).2.flatMap (linesAfter ending) := by
  induction cs with
  | nil => rfl
  | cons c cs ih =>
      obtain ⟨hreturn, hrest⟩ := List.ne_and_not_mem_of_not_mem_cons h
      by_cases hfeed : c = '\n'
      · subst hfeed
        have hpieces : pieces '\n' ('\n' :: cs) = [] :: pieces '\n' cs := Text.pieces_cons_self cs
        obtain ⟨hfirst, hothers⟩ := List.cons.inj hpieces
        rw [LineEnding.write_cons_break, hfirst, hothers, pieces, List.flatMap_cons]
        -- What an ending breaks off is a line without characters.
        cases ending with
        | lineFeed => exact (breakLines_cons_feed _).trans (congrArg ([] :: ·) (ih hrest))
        | carriageReturn => exact (breakLines_cons_return _).trans (congrArg ([] :: ·) (ih hrest))
        | pair =>
            refine (breakLines_cons_return _).trans (congrArg ([] :: ·) ?_)
            exact (breakLines_cons_feed _).trans (congrArg ([] :: ·) (ih hrest))
      · obtain ⟨hfirst, hothers⟩ := List.cons.inj (Text.pieces_cons_of_ne hfeed cs)
        rw [LineEnding.write_cons_of_ne ending hfeed, hfirst, hothers]
        exact breakLines_cons hfeed (Ne.symm hreturn) (ih hrest)

end Lines

/-! ## The lines of a summary -/

/-- What a summary keeps of some lines after the first. -/
def kept (lines : List (List Char)) : List (List Char) :=
  (lines.map trim).filter (!·.isEmpty)

theorem kept_append (xs ys : List (List Char)) : kept (xs ++ ys) = kept xs ++ kept ys := by
  simp [kept]

theorem kept_singleton_eq_nil_iff {line : List Char} :
    kept [line] = [] ↔ allBlank line = true := by
  rw [← Text.trim_eq_nil_iff]
  simp [kept]

theorem summaryOf_of_lines {cs first : List Char} {rest : List (List Char)}
    (h : breakLines cs = first :: rest) : summaryOf cs = trim first :: kept (rest.take 2) := by
  unfold summaryOf
  rw [h]
  rfl

theorem notMem_of_mem_summaryOf {cs line : List Char} (h : line ∈ summaryOf cs) :
    '\n' ∉ line := by
  have hpiece : ∃ piece ∈ breakLines cs, line = trim piece := by
    have hlines : breakLines cs = _ :: _ := rfl
    rw [summaryOf_of_lines hlines] at h
    rcases List.mem_cons.mp h with rfl | h
    · exact ⟨_, List.mem_cons_self, rfl⟩
    · obtain ⟨piece, hpiece, rfl⟩ := List.mem_map.mp (List.mem_filter.mp h).1
      exact ⟨piece, List.mem_cons_of_mem _ (List.mem_of_mem_take hpiece), rfl⟩
  obtain ⟨piece, hpiece, rfl⟩ := hpiece
  intro hmem
  exact (Text.mem_of_mem_piece hpiece (Text.mem_of_mem_trim hmem)).2 rfl

/-- The lines of a summary can be read off it. -/
theorem pieces_summary (i : Item) : pieces '\n' i.summary.toList = summaryOf i.value.toList := by
  symm
  rw [← Text.isCut_iff]
  refine ⟨List.cons_ne_nil _ _, ?_, fun line => notMem_of_mem_summaryOf⟩
  unfold summary
  rw [String.toList_intercalate, List.map_map]
  simp [Function.comp_def]

theorem summary_eq_iff {i j : Item} :
    i.summary = j.summary ↔ summaryOf i.value.toList = summaryOf j.value.toList := by
  constructor
  · intro h
    rw [← pieces_summary, ← pieces_summary, h]
  · intro h
    unfold summary
    rw [h]

/-- **Summaries and line endings.** If the line feeds of a value without carriage returns are
replaced by carriage returns, the summary stays the same. If they are replaced by carriage
returns with a line feed, it stays the same exactly if the third line is blank or there is none. -/
theorem summary_of_ending (i : Item) (h : '\r' ∉ i.value.toList) (ending : LineEnding) :
    (i.ended ending).summary = i.summary ↔
      (ending = .pair →
        ∀ line, (pieces '\n' i.value.toList)[2]? = some line → allBlank line = true) := by
  have hown := breakLines_write .lineFeed h
  have hended := breakLines_write ending h
  rw [LineEnding.write_lineFeed, flatMap_linesAfter (by decide)] at hown
  have hvalue : (i.ended ending).value.toList = ending.write i.value.toList :=
    String.toList_ofList
  have hlines : pieces '\n' i.value.toList =
      (cut '\n' i.value.toList).1 :: (cut '\n' i.value.toList).2 := rfl
  rw [summary_eq_iff, hvalue, summaryOf_of_lines hended, summaryOf_of_lines hown, hlines,
    List.cons_inj_right]
  by_cases hpair : ending = .pair
  · subst hpair
    -- Two lines after the first are looked at, and the first of them is now a blank one.
    rcases (cut '\n' i.value.toList).2 with - | ⟨second, - | ⟨third, rest⟩⟩
    · simp
    · have hskipped : kept [[], second] = kept [second] := rfl
      simp [linesAfter, hskipped]
    · have hskipped : kept [[], second] = kept [second] := rfl
      have hboth : kept [second, third] = kept [second] ++ kept [third] :=
        kept_append [second] [third]
      simp [linesAfter, hskipped, hboth, kept_singleton_eq_nil_iff]
  · rw [flatMap_linesAfter hpair]
    simp [hpair]

/-! ## Three lines -/

/-- A text of which the second line is not blank and the third is. -/
def pausedItem : Item := ⟨"pause", "one\n  two\n \nfour", stringType, .plain, []⟩

theorem summary_of_ending_paused :
    '\r' ∉ pausedItem.value.toList ∧
      (pausedItem.ended .carriageReturn).summary = pausedItem.summary ∧
      (pausedItem.ended .pair).summary = pausedItem.summary := by
  have hvalue : '\r' ∉ pausedItem.value.toList := by decide +kernel
  have hthird : (pieces '\n' pausedItem.value.toList)[2]? = some [' '] := by decide +kernel
  refine ⟨hvalue, (summary_of_ending _ hvalue .carriageReturn).mpr nofun, ?_⟩
  apply (summary_of_ending _ hvalue .pair).mpr
  intro _ line hline
  cases hthird.symm.trans hline
  decide

def threeLines : Item := ⟨"steps", "first\nsecond\nthird", stringType, .plain, []⟩

/-- Of three lines that end in a carriage return and a line feed, the last one is lost. -/
theorem third_line_is_lost :
    '\r' ∉ threeLines.value.toList ∧
      (threeLines.ended .pair).value = "first\r\nsecond\r\nthird" ∧
      threeLines.summary = "first\nsecond\nthird" ∧
      (threeLines.ended .pair).summary = "first\nsecond" := by
  decide +kernel

end Item

end ResourceAudit
