import ResourceAudit.Proofs.Format.Recognition

/-!
# Faults of a scan

A scan stops at the first fault. The text before the fault is the beginning of a well-formed
value (`Breaks.exists_completion`), and no text after the fault mends it or turns it into
another one (`Breaks.append`). The readers of an item have the same two properties, one part
after another: what a reader leaves over it leaves over whatever follows.
-/

namespace ResourceAudit.Format

open Text (run_append_of_stopped)

/-- The fault in a text that goes on. -/
def Fault.before (f : Fault) (more : List Char) : Fault :=
  ⟨f.problem, f.rest ++ more⟩

/-! ## Texts that go on -/

section Append

variable {cs rest : List Char} {f : Fault} {n : Nat}

theorem readNumber_eq_none_iff :
    readNumber cs = none ↔
      cs.takeWhile Char.isDigit = [] ∨
        numberBound ≤ Text.Decimal.value (cs.takeWhile Char.isDigit) := by
  unfold readNumber
  split
  · rename_i hnil
    simp [hnil]
  · rename_i hne
    rw [Option.map_eq_none_iff, Option.eq_none_iff_forall_ne_some]
    simp only [ne_eq, Text.Decimal.below?_eq_some_iff]
    constructor
    · intro hnone
      exact Or.inr (Nat.le_of_not_lt fun hlt => hnone _ ⟨rfl, hlt⟩)
    · rintro (hnil | hle) m ⟨rfl, hlt⟩
      · exact hne hnil
      · exact absurd hlt (Nat.not_lt.mpr hle)

theorem rest_of_readNumber (h : readNumber cs = some (n, rest)) :
    rest = cs.dropWhile Char.isDigit := by
  unfold readNumber at h
  split at h
  · cases h
  · obtain ⟨m, -, hm⟩ := Option.map_eq_some_iff.mp h
    exact (Prod.mk.inj hm).2.symm

theorem value_le_append (digits more : List Char) :
    Text.Decimal.value digits ≤ Text.Decimal.value (digits ++ more) := by
  unfold Text.Decimal.value
  rw [List.foldl_append]
  exact Text.Decimal.le_foldl_value _ more

/-- A number that was stopped is not prolonged. -/
theorem readNumber_append_some (h : readNumber cs = some (n, rest)) (hrest : rest ≠ [])
    (more : List Char) : readNumber (cs ++ more) = some (n, rest ++ more) := by
  have hdrop := rest_of_readNumber h
  subst hdrop
  obtain ⟨htake, hdrop⟩ := run_append_of_stopped hrest more
  unfold readNumber at h ⊢
  rw [htake, hdrop]
  split at h
  · cases h
  · obtain ⟨m, hm, hpair⟩ := Option.map_eq_some_iff.mp h
    obtain ⟨rfl, -⟩ := Prod.mk.inj hpair
    rw [hm]
    rfl

/-- What begins with no number, or with one that is too large, does so whatever follows. -/
theorem readNumber_append_none (h : readNumber cs = none) (hcs : cs ≠ [])
    (more : List Char) : readNumber (cs ++ more) = none := by
  rw [readNumber_eq_none_iff] at h ⊢
  by_cases hstopped : cs.dropWhile Char.isDigit = []
  · have hdigits : ∀ c ∈ cs, c.isDigit = true := List.dropWhile_eq_nil_iff.mp hstopped
    rw [List.takeWhile_eq_self_iff.mpr hdigits] at h
    rw [List.takeWhile_append_of_pos hdigits]
    rcases h with hnil | hle
    · exact absurd hnil hcs
    · exact Or.inr (Nat.le_trans hle (value_le_append _ _))
  · rw [(run_append_of_stopped hstopped more).1]
    exact h

theorem skipSpaces_append (h : skipSpaces cs ≠ []) (more : List Char) :
    skipSpaces (cs ++ more) = skipSpaces cs ++ more :=
  (run_append_of_stopped h more).2

namespace Item

theorem skipMinus_append (h : cs ≠ []) (more : List Char) :
    skipMinus (cs ++ more) = skipMinus cs ++ more := by
  obtain ⟨c, tail, rfl⟩ := List.exists_cons_of_ne_nil h
  by_cases hminus : c = '-'
  · subst hminus
    rfl
  · have hkeep : ∀ tail, skipMinus (c :: tail) = c :: tail := by
      intro tail
      unfold skipMinus
      split
      · rename_i heq
        exact absurd (List.cons.inj heq).1 hminus
      · rfl
    rw [List.cons_append, hkeep, hkeep, List.cons_append]

theorem skipMinus_ne_nil (h : skipMinus cs ≠ []) : cs ≠ [] := by
  rintro rfl
  exact h rfl

theorem skipAlignment_other {c : Char} (hc : c ≠ ',') (tail : List Char) :
    skipAlignment (c :: tail) = .ok (c :: tail) := by
  unfold skipAlignment
  split
  · rename_i heq
    exact absurd (List.cons.inj heq).1 hc
  · rfl

theorem skipAlignment_comma (tail : List Char) :
    skipAlignment (',' :: tail) =
      match readNumber (skipMinus (skipSpaces tail)) with
      | some (_, after) => .ok (skipSpaces after)
      | none => .error ⟨.widthExpected, skipMinus (skipSpaces tail)⟩ := rfl

/-- The text of a width that has begun. -/
theorem width_append {tail : List Char} (h : skipMinus (skipSpaces tail) ≠ [])
    (more : List Char) :
    skipMinus (skipSpaces (tail ++ more)) = skipMinus (skipSpaces tail) ++ more := by
  have hspaces := skipMinus_ne_nil h
  rw [skipSpaces_append hspaces, skipMinus_append hspaces]

theorem skipAlignment_append_ok (h : skipAlignment cs = .ok rest) (hrest : rest ≠ [])
    (more : List Char) : skipAlignment (cs ++ more) = .ok (rest ++ more) := by
  cases cs with
  | nil =>
      cases h
      exact absurd rfl hrest
  | cons c tail =>
      by_cases hc : c = ','
      · subst hc
        rw [skipAlignment_comma] at h
        rw [List.cons_append, skipAlignment_comma]
        cases hwidth : readNumber (skipMinus (skipSpaces tail)) with
        | none =>
            rw [hwidth] at h
            cases h
        | some read =>
            obtain ⟨n, after⟩ := read
            rw [hwidth] at h
            cases h
            have hafter : after ≠ [] := by
              rintro rfl
              exact hrest rfl
            have hbegun : skipMinus (skipSpaces tail) ≠ [] := by
              intro hnil
              rw [hnil] at hwidth
              cases hwidth
            rw [width_append hbegun, readNumber_append_some hwidth hafter]
            exact congrArg Except.ok (skipSpaces_append hrest more)
      · rw [skipAlignment_other hc] at h
        cases h
        exact skipAlignment_other hc (tail ++ more)

theorem skipAlignment_append_error (h : skipAlignment cs = .error f) (hrest : f.rest ≠ [])
    (more : List Char) : skipAlignment (cs ++ more) = .error (f.before more) := by
  cases cs with
  | nil => cases h
  | cons c tail =>
      by_cases hc : c = ','
      · subst hc
        rw [skipAlignment_comma] at h
        rw [List.cons_append, skipAlignment_comma]
        cases hwidth : readNumber (skipMinus (skipSpaces tail)) with
        | none =>
            rw [hwidth] at h
            cases h
            rw [width_append hrest, readNumber_append_none hwidth hrest]
            rfl
        | some read =>
            rw [hwidth] at h
            cases h
      · rw [skipAlignment_other hc] at h
        cases h

theorem readSpecifier_closed {tail : List Char} (h : cs.dropWhile (!isBrace ·) = '}' :: tail) :
    readSpecifier cs =
      if (cs.takeWhile (!isBrace ·)).isEmpty then .error ⟨.specifierEmpty, '}' :: tail⟩
      else .ok (String.ofList (cs.takeWhile (!isBrace ·)), tail) := by
  unfold readSpecifier
  rw [h]
  rfl

theorem readSpecifier_broken {c : Char} {tail : List Char} (hc : c ≠ '}')
    (h : cs.dropWhile (!isBrace ·) = c :: tail) :
    readSpecifier cs = .error ⟨.braceInSpecifier, c :: tail⟩ := by
  unfold readSpecifier
  rw [h]
  dsimp only
  split
  · rename_i heq
    cases heq
  · rename_i heq
    exact absurd (List.cons.inj heq).1 hc
  · rfl

/-- The fault of a specifier stands at the first brace after the colon, or at the end. -/
theorem rest_of_readSpecifier (h : readSpecifier cs = .error f) :
    f.rest = cs.dropWhile (!isBrace ·) := by
  unfold readSpecifier at h
  dsimp only at h
  split at h
  · rename_i hdrop
    cases h
    exact hdrop.symm
  · rename_i tail hdrop
    split at h
    · cases h
      exact hdrop.symm
    · cases h
  · cases h
    rfl

theorem readSpecifier_append (h : readSpecifier cs = .error f) (hrest : f.rest ≠ [])
    (more : List Char) : readSpecifier (cs ++ more) = .error (f.before more) := by
  rw [rest_of_readSpecifier h] at hrest
  obtain ⟨htake, hdrop⟩ := run_append_of_stopped hrest more
  obtain ⟨c, tail, hcons⟩ := List.exists_cons_of_ne_nil hrest
  rw [hcons, List.cons_append] at hdrop
  by_cases hc : c = '}'
  · subst hc
    rw [readSpecifier_closed hcons] at h
    rw [readSpecifier_closed hdrop, htake]
    split at h
    · rename_i hempty
      cases h
      exact if_pos hempty
    · cases h
  · rw [readSpecifier_broken hc hcons] at h
    cases h
    exact readSpecifier_broken hc hdrop

theorem readEnd_other {c : Char} (hcolon : c ≠ ':') (hclose : c ≠ '}') (tail : List Char) :
    readEnd (c :: tail) = .error ⟨.itemNotClosed, c :: tail⟩ := by
  unfold readEnd
  split
  · rename_i heq
    exact absurd (List.cons.inj heq).1 hcolon
  · rename_i heq
    exact absurd (List.cons.inj heq).1 hclose
  · rfl

theorem readEnd_append (h : readEnd cs = .error f) (hrest : f.rest ≠ []) (more : List Char) :
    readEnd (cs ++ more) = .error (f.before more) := by
  cases cs with
  | nil =>
      cases h
      exact absurd rfl hrest
  | cons c tail =>
      by_cases hcolon : c = ':'
      · subst hcolon
        have hspecifier : readSpecifier tail = .error f := Attempt.map_eq_error.mp h
        exact Attempt.map_eq_error.mpr (readSpecifier_append hspecifier hrest more)
      · by_cases hclose : c = '}'
        · subst hclose
          cases h
        · rw [readEnd_other hcolon hclose] at h
          cases h
          exact readEnd_other hcolon hclose (tail ++ more)

/-- An item without an index. -/
theorem read_unindexed (h : readNumber cs = none) : read cs = .error ⟨.indexExpected, cs⟩ := by
  unfold read
  rw [h]

/-- After the index, the fault of an item is that of its alignment or of its end. -/
theorem read_indexed (h : readNumber cs = some (n, rest)) :
    read cs = skipAlignment (skipSpaces rest) >>= fun aligned =>
      (readEnd aligned).map fun ended => (⟨n, ended.1⟩, ended.2) := by
  unfold read
  rw [h]
  dsimp only
  cases skipAlignment (skipSpaces rest) with
  | error fault => rfl
  | ok aligned => cases readEnd aligned <;> rfl

/-- **No text mends an item.** A fault with something left to read stays what it is and where
it is. -/
theorem read_append (h : read cs = .error f) (hrest : f.rest ≠ []) (more : List Char) :
    read (cs ++ more) = .error (f.before more) := by
  cases hindex : readNumber cs with
  | none =>
      rw [read_unindexed hindex] at h
      cases h
      exact read_unindexed (readNumber_append_none hindex hrest more)
  | some indexed =>
      obtain ⟨n, tail⟩ := indexed
      rw [read_indexed hindex] at h
      -- Something is left of the last part that was read, hence of every part before it.
      have hgoes (hspaces : skipSpaces tail ≠ []) : read (cs ++ more) =
          skipAlignment (skipSpaces tail ++ more) >>= fun aligned =>
            (readEnd aligned).map fun ended => (⟨n, ended.1⟩, ended.2) := by
        have htail : tail ≠ [] := by
          rintro rfl
          exact hspaces rfl
        rw [read_indexed (readNumber_append_some hindex htail more), skipSpaces_append hspaces]
      cases halign : skipAlignment (skipSpaces tail) with
      | error fault =>
          rw [halign] at h
          cases h
          have hspaces : skipSpaces tail ≠ [] := by
            intro hnil
            rw [hnil] at halign
            cases halign
          rw [hgoes hspaces, skipAlignment_append_error halign hrest]
          rfl
      | ok aligned =>
          rw [halign] at h
          have hend : readEnd aligned = .error f := Attempt.map_eq_error.mp h
          have haligned : aligned ≠ [] := by
            rintro rfl
            cases hend
            exact hrest rfl
          have hspaces : skipSpaces tail ≠ [] := by
            intro hnil
            rw [hnil] at halign
            cases halign
            exact haligned rfl
          rw [hgoes hspaces, skipAlignment_append_ok halign haligned]
          exact Attempt.map_eq_error.mpr (readEnd_append hend hrest more)

end Item

end Append

/-! ## Texts that end at the fault -/

/-- The shortest index or width. -/
def Numeral.zero : Numeral where
  digits := ['0']
  digits_ne_nil := zero_ne_nil
  isDigit_of_mem := isDigit_of_mem_zero
  value_lt := zero_lt_numberBound

/-- The text of a specifier and one character more. -/
def SpecifierText.begun (chars : List Char) (h : ∀ c ∈ chars, c ≠ '{' ∧ c ≠ '}') :
    SpecifierText where
  chars := chars ++ ['0']
  chars_ne_nil := List.append_ne_nil_of_right_ne_nil _ (List.cons_ne_nil _ _)
  no_brace := by
    intro c hc
    rcases List.mem_append.mp hc with hc | hc
    · exact h c hc
    · rw [List.mem_singleton.mp hc]
      decide

namespace Item

variable {cs : List Char} {f : Fault}

/-- A faulty width may still become one. -/
theorem exists_width_of_skipAlignment (h : skipAlignment cs = .error f) :
    ∃ a : Alignment, ∃ before, cs = before ++ f.rest ∧ before ++ ['0'] = a.text := by
  cases cs with
  | nil => cases h
  | cons c tail =>
      by_cases hc : c = ','
      · subst hc
        rw [skipAlignment_comma] at h
        split at h
        · cases h
        · cases h
          obtain ⟨gap, hgap⟩ := exists_spaces_of_skipSpaces tail
          obtain ⟨minus, hminus⟩ := exists_minusText_of_skipMinus (skipSpaces tail)
          refine ⟨⟨gap, minus, .zero, 0⟩, ',' :: (spaces gap ++ minusText minus), ?_, ?_⟩
          · rw [List.cons_append, List.append_assoc, ← hminus, ← hgap]
          · simp [Alignment.text, Numeral.zero, spaces]
      · rw [skipAlignment_other hc] at h
        cases h

/-- A faulty end may still become one. -/
theorem exists_end_of_readEnd (h : readEnd cs = .error f) :
    ∃ s : Option SpecifierText, ∃ before after,
      cs = before ++ f.rest ∧ before ++ after = specifierText s ++ ['}'] := by
  cases cs with
  | nil =>
      cases h
      exact ⟨none, [], ['}'], rfl, rfl⟩
  | cons c tail =>
      by_cases hcolon : c = ':'
      · subst hcolon
        have hspecifier : readSpecifier tail = .error f := Attempt.map_eq_error.mp h
        have hchars : ∀ c ∈ tail.takeWhile (!isBrace ·), c ≠ '{' ∧ c ≠ '}' := by
          intro c hc
          have hbrace := List.mem_takeWhile_imp (p := fun c => !isBrace c) hc
          simpa [isBrace] using hbrace
        refine ⟨some (.begun _ hchars), ':' :: tail.takeWhile (!isBrace ·), ['0', '}'], ?_, ?_⟩
        · rw [rest_of_readSpecifier hspecifier, List.cons_append,
            List.takeWhile_append_dropWhile]
        · simp [specifierText, SpecifierText.begun]
      · by_cases hclose : c = '}'
        · subst hclose
          cases h
        · rw [readEnd_other hcolon hclose] at h
          cases h
          exact ⟨none, [], ['}'], rfl, rfl⟩

/-- **What was read of a faulty item may still become one.** -/
theorem exists_item_of_read (h : read cs = .error f) :
    ∃ t : ItemText, ∃ before after, cs = before ++ f.rest ∧ before ++ after = t.body ++ ['}'] := by
  cases hindex : readNumber cs with
  | none =>
      rw [read_unindexed hindex] at h
      cases h
      exact ⟨⟨.zero, 0, none, none⟩, [], ['0', '}'], rfl, rfl⟩
  | some indexed =>
      obtain ⟨n, tail⟩ := indexed
      rw [read_indexed hindex] at h
      obtain ⟨index, rfl, -⟩ := exists_digits_of_readNumber hindex
      obtain ⟨gap, hgap⟩ := exists_spaces_of_skipSpaces tail
      cases halign : skipAlignment (skipSpaces tail) with
      | error fault =>
          rw [halign] at h
          cases h
          obtain ⟨a, before, hbefore, htext⟩ := exists_width_of_skipAlignment halign
          refine ⟨⟨index, gap, some a, none⟩, index.digits ++ (spaces gap ++ before),
            ['0', '}'], ?_, ?_⟩
          · rw [List.append_assoc, List.append_assoc, ← hbefore, ← hgap]
          · rw [ItemText.body_append, alignmentText, ← htext]
            simp [specifierText]
      | ok aligned =>
          rw [halign] at h
          have hend : readEnd aligned = .error f := Attempt.map_eq_error.mp h
          obtain ⟨a, ha⟩ := exists_alignment_of_skipAlignment halign
          obtain ⟨s, before, after, hbefore, htext⟩ := exists_end_of_readEnd hend
          refine ⟨⟨index, gap, a, s⟩, index.digits ++ (spaces gap ++ (alignmentText a ++ before)),
            after, ?_, ?_⟩
          · rw [List.append_assoc, List.append_assoc, List.append_assoc, ← hbefore, ← ha, ← hgap]
          · rw [ItemText.body_append, ← htext]
            simp only [List.append_assoc]

end Item

/-! ## Whole values -/

namespace Breaks

variable {cs : List Char} {f : Fault}

/-- The text before a fault is the beginning of a well-formed one. -/
theorem exists_completion (h : Breaks cs f) :
    ∃ before after xs, cs = before ++ f.rest ∧ before ++ after = render xs := by
  cases h with
  | strayBrace rest => exact ⟨[], [], [], rfl, rfl⟩
  | item body _ _ hread =>
      obtain ⟨t, before, after, rfl, htext⟩ := Item.exists_item_of_read hread
      refine ⟨'{' :: before, after, [.item t], rfl, ?_⟩
      rw [render_cons, render_nil, List.append_nil, List.cons_append, htext]
      rfl

/-- The scan of a longer text stops at the same fault. Two characters have to be left where
it stopped: a single brace at the end may be doubled. -/
theorem append (h : Breaks cs f) (hrest : 1 < f.rest.length) (more : List Char) :
    Breaks (cs ++ more) (f.before more) := by
  cases h with
  | strayBrace rest hsingle =>
      cases rest with
      | nil => exact absurd hrest (by decide)
      | cons c tail =>
          refine .strayBrace (c :: tail ++ more) ?_
          intro other heq
          obtain ⟨rfl, -⟩ := List.cons.inj heq
          exact hsingle tail rfl
  | item body _ hsingle hread =>
      have hne : f.rest ≠ [] := List.ne_nil_of_length_pos (by omega)
      refine .item (body ++ more) _ ?_ (Item.read_append hread hne more)
      obtain ⟨-, before, -, rfl, -⟩ := Item.exists_item_of_read hread
      intro other heq
      cases hbody : before ++ f.rest with
      | nil => exact hne (List.append_eq_nil_iff.mp hbody).2
      | cons c tail =>
          rw [hbody] at heq
          obtain ⟨rfl, -⟩ := List.cons.inj heq
          exact hsingle tail hbody

end Breaks

section Scan

variable {v : String} {xs : List Segment} {rest : List Char} {f : Fault}

/-- The scan of a text that breaks after some segments. -/
theorem scan_of_breaks (hv : v.toList = render xs ++ rest) (hbreaks : Breaks rest f) :
    scan v = ⟨items xs, some ⟨f.problem, v.toList.length - f.rest.length⟩⟩ := by
  have hscan : scanFrom v.toList = (items xs, some f) := by
    rw [hv, scanFrom_render_append, scanFrom_of_breaks hbreaks, List.append_nil]
  unfold scan
  dsimp only
  rw [hscan]
  rfl

/-- A scan that ends with an error has met a fault after some segments. -/
theorem exists_breaks_of_error {e : ScanError} (h : (scan v).error = some e) :
    ∃ xs rest f, v.toList = render xs ++ rest ∧ Breaks rest f ∧
      scan v = ⟨items xs, some e⟩ ∧ e = ⟨f.problem, v.toList.length - f.rest.length⟩ := by
  obtain ⟨xs, rest, hv, hrest | ⟨f, hbreaks⟩⟩ := exists_reading v.toList
  · rw [hrest, List.append_nil] at hv
    rw [(scan_error_eq_none_iff v).mpr ⟨xs, hv.symm⟩] at h
    cases h
  · have hscan := scan_of_breaks hv hbreaks
    rw [hscan] at h
    cases h
    exact ⟨xs, rest, f, hv, hbreaks, hscan, rfl⟩

theorem scan_ofList_render (xs : List Segment) :
    (scan (String.ofList (render xs))).error = none ∧
      (scan (String.ofList (render xs))).items = items xs := by
  have htext : render xs = (String.ofList (render xs)).toList := String.toList_ofList.symm
  exact ⟨(scan_error_eq_none_iff _).mpr ⟨xs, htext⟩, scan_items_of_render htext⟩

end Scan

/-- What the position of an error tells about a value. -/
structure Locates (v : String) (e : ScanError) : Prop where
  within : e.position ≤ v.length
  /-- The text before the error can be completed. -/
  viable : ∃ t, (scan (String.ofList (v.toList.take e.position) ++ t)).error = none
  /-- What was found is what a well-formed text before the error holds. -/
  kept : ∃ p r, v = p ++ r ∧ (scan p).error = none ∧ p.length ≤ e.position ∧
    (scan v).placeholders = (scan p).placeholders ∧ (scan v).uses = (scan p).uses
  /-- An error before the last character is final. -/
  final : e.position + 1 < v.length → ∀ t, (scan (v ++ t)).error = some e ∧
    (scan (v ++ t)).placeholders = (scan v).placeholders ∧ (scan (v ++ t)).uses = (scan v).uses

/-- **Errors are located.** The error of a scan stands where the text read so far can still be
completed, the items before it are kept, and unless it stands at the very end no further text
changes anything. -/
theorem scan_error_located {v : String} {e : ScanError} (h : (scan v).error = some e) :
    Locates v e := by
  obtain ⟨xs, rest, f, hv, hbreaks, hscan, rfl⟩ := exists_breaks_of_error h
  obtain ⟨before, after, ys, rfl, hcompletion⟩ := hbreaks.exists_completion
  have hlength : v.toList.length = (render xs ++ before).length + f.rest.length := by
    rw [hv, ← List.append_assoc, List.length_append]
  have hposition : v.toList.length - f.rest.length = (render xs ++ before).length := by omega
  obtain ⟨hclean, hitems⟩ := scan_ofList_render xs
  refine ⟨?_, ?_, ?_, ?_⟩
  · rw [← String.length_toList]
    exact Nat.sub_le _ _
  · refine ⟨String.ofList after, (scan_error_eq_none_iff _).mpr ⟨xs ++ ys, ?_⟩⟩
    dsimp only
    rw [hposition, hv, ← List.append_assoc, List.take_left, ← String.ofList_append,
      String.toList_ofList, List.append_assoc, hcompletion]
    exact List.flatMap_append
  · refine ⟨String.ofList (render xs), String.ofList (before ++ f.rest), ?_, hclean, ?_, ?_⟩
    · rw [← String.ofList_append, ← hv, String.ofList_toList]
    · dsimp only
      rw [hposition, String.length_ofList, List.length_append]
      exact Nat.le_add_right _ _
    · refine Scan.views_congr ?_
      rw [hscan, hitems]
  · intro hbefore t
    have hleft : 1 < f.rest.length := by
      rw [← String.length_toList] at hbefore
      dsimp only at hbefore
      omega
    have hmore : (v ++ t).toList = render xs ++ (before ++ f.rest ++ t.toList) := by
      rw [String.toList_append, hv, List.append_assoc]
    have hagain := scan_of_breaks hmore (hbreaks.append hleft t.toList)
    refine ⟨?_, Scan.views_congr ?_⟩
    · -- Value and rest have grown by the same text, so the position is where it was.
      have hgrown : (v ++ t).toList.length - (f.before t.toList).rest.length =
          v.toList.length - f.rest.length := by
        rw [String.toList_append, List.length_append, Fault.before, List.length_append]
        omega
      rw [hagain, hgrown]
      rfl
    · rw [hagain, hscan]

/-- A width that is no number, after an item that is kept. -/
theorem scan_error_located_width :
    (scan "\x7b0:N2\x7d\x7b1,x\x7d").error = some ⟨.widthExpected, 9⟩ ∧
      Locates "\x7b0:N2\x7d\x7b1,x\x7d" ⟨.widthExpected, 9⟩ ∧
      ∀ t, (scan ("\x7b0:N2\x7d\x7b1,x\x7d" ++ t)).error = some ⟨.widthExpected, 9⟩ := by
  have herror : (scan "\x7b0:N2\x7d\x7b1,x\x7d").error = some ⟨.widthExpected, 9⟩ := by
    decide +kernel
  have hlocates := scan_error_located herror
  exact ⟨herror, hlocates, fun t => (hlocates.final (by decide) t).1⟩

/-- An error at the last character need not be final: a brace may still be doubled. -/
example : (scan "\x7d").error = some ⟨.strayBrace, 0⟩ ∧ (scan "\x7d\x7d").error = none := by
  decide +kernel

end ResourceAudit.Format
