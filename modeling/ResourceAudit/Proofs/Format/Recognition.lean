import ResourceAudit.Proofs.Collection.Attempt
import ResourceAudit.Proofs.Collection.FirstAppearance
import ResourceAudit.Proofs.Format.Grammar
import ResourceAudit.Proofs.Format.Views

/-!
# Scanning recognises the grammar

Each reader of a part of an item is tied to the text of that part in both
directions: it reads the text back whatever follows (`readNumber_digits`,
`read_body`), and what it reads is such a text (`exists_digits_of_readNumber`,
`exists_body_of_read`). For whole values this gives `scanFrom_render` and
`exists_render_of_scanFrom`: the values without an error are exactly those that have a
reading, and what a scan reports is read off it.
-/

namespace ResourceAudit.Format

open Text (Stops stops_cons takeWhile_run dropWhile_run)

/-! ## Numbers and spaces -/

theorem readNumber_digits (n : Numeral) {rest : List Char} (hrest : Stops Char.isDigit rest) :
    readNumber (n.digits ++ rest) = some (n.value, rest) := by
  unfold readNumber
  rw [takeWhile_run n.isDigit_of_mem hrest, dropWhile_run n.isDigit_of_mem hrest]
  have hbelow : Text.Decimal.below? numberBound n.digits = some n.value :=
    Text.Decimal.below?_eq_some_iff.mpr ⟨rfl, n.value_lt⟩
  split
  · rename_i hnil
    exact absurd hnil n.digits_ne_nil
  · rw [hbelow]
    rfl

theorem exists_digits_of_readNumber {cs rest : List Char} {v : Nat}
    (h : readNumber cs = some (v, rest)) :
    ∃ n : Numeral, cs = n.digits ++ rest ∧ n.value = v := by
  unfold readNumber at h
  split at h
  · exact absurd h (by simp)
  · rename_i hne
    obtain ⟨m, hm, hpair⟩ := Option.map_eq_some_iff.mp h
    obtain ⟨rfl, rfl⟩ := Prod.mk.inj hpair
    obtain ⟨hvalue, hlt⟩ := Text.Decimal.below?_eq_some_iff.mp hm
    refine ⟨⟨cs.takeWhile Char.isDigit, hne, ?_, hvalue ▸ hlt⟩, ?_, hvalue⟩
    · intro c hc
      exact List.mem_takeWhile_imp hc
    · exact List.takeWhile_append_dropWhile.symm

theorem skipSpaces_spaces (n : Nat) {rest : List Char} (hrest : Stops isSpace rest) :
    skipSpaces (spaces n ++ rest) = rest :=
  dropWhile_run isSpace_of_mem_spaces hrest

theorem exists_spaces_of_skipSpaces (cs : List Char) :
    ∃ n, cs = spaces n ++ skipSpaces cs := by
  refine ⟨(cs.takeWhile isSpace).length, ?_⟩
  have hrun : cs.takeWhile isSpace = spaces (cs.takeWhile isSpace).length := by
    refine List.eq_replicate_of_mem ?_
    intro c hc
    have hspace : isSpace c = true := List.mem_takeWhile_imp hc
    exact beq_iff_eq.mp hspace
  rw [← hrun]
  exact List.takeWhile_append_dropWhile.symm

/-! ## Alignments -/

theorem skipMinus_minusText (minus : Bool) {rest : List Char} (hrest : Stops (· == '-') rest) :
    Item.skipMinus (minusText minus ++ rest) = rest := by
  cases minus with
  | true => rfl
  | false =>
      show Item.skipMinus rest = rest
      unfold Item.skipMinus
      split
      · exact absurd (stops_cons.mp hrest) (by decide)
      · rfl

theorem exists_minusText_of_skipMinus (cs : List Char) :
    ∃ minus, cs = minusText minus ++ Item.skipMinus cs := by
  unfold Item.skipMinus
  split
  · exact ⟨true, rfl⟩
  · exact ⟨false, rfl⟩

theorem skipAlignment_text (a : Alignment) {rest : List Char} (hrest : Closing rest) :
    Item.skipAlignment (a.text ++ rest) = .ok rest := by
  have hspace : Stops isSpace rest := hrest.stops rfl rfl
  rw [Alignment.text_append, Item.skipAlignment, skipSpaces_spaces _ (a.stops_width _),
    skipMinus_minusText _ (stops_digits (fun _ => isDigit_ne rfl) a.width _),
    readNumber_digits _ (stops_spaces rfl _ (hrest.stops rfl rfl))]
  exact congrArg Except.ok (skipSpaces_spaces _ hspace)

theorem skipAlignment_alignmentText (a : Option Alignment) {rest : List Char}
    (hrest : Closing rest) : Item.skipAlignment (alignmentText a ++ rest) = .ok rest := by
  cases a with
  | none => obtain ⟨c, tail, rfl, rfl | rfl⟩ := hrest <;> rfl
  | some a => exact skipAlignment_text a hrest

theorem exists_alignment_of_skipAlignment {cs rest : List Char}
    (h : Item.skipAlignment cs = .ok rest) :
    ∃ a, cs = alignmentText a ++ rest := by
  unfold Item.skipAlignment at h
  split at h
  · rename_i tail
    dsimp only at h
    split at h
    · rename_i v after hwidth
      cases h
      obtain ⟨gap, hgap⟩ := exists_spaces_of_skipSpaces tail
      obtain ⟨minus, hminus⟩ := exists_minusText_of_skipMinus (skipSpaces tail)
      obtain ⟨width, hdigits, -⟩ := exists_digits_of_readNumber hwidth
      obtain ⟨trail, htrail⟩ := exists_spaces_of_skipSpaces after
      refine ⟨some ⟨gap, minus, width, trail⟩, ?_⟩
      rw [alignmentText, Alignment.text_append, ← htrail, ← hdigits, ← hminus, ← hgap]
    · cases h
  · cases h
    exact ⟨none, rfl⟩

/-! ## Specifiers and whole items -/

theorem readSpecifier_chars (s : SpecifierText) (rest : List Char) :
    Item.readSpecifier (s.chars ++ '}' :: rest) = .ok (s.string, rest) := by
  have hstop : Stops (!Item.isBrace ·) ('}' :: rest) := stops_cons.mpr rfl
  have hne : s.chars.isEmpty = false := List.isEmpty_eq_false_iff.mpr s.chars_ne_nil
  simp only [Item.readSpecifier, takeWhile_run s.notBrace_of_mem hstop,
    dropWhile_run s.notBrace_of_mem hstop, hne, Bool.false_eq_true, if_false]
  rfl

theorem exists_chars_of_readSpecifier {cs rest : List Char} {specifier : String}
    (h : Item.readSpecifier cs = .ok (specifier, rest)) :
    ∃ s : SpecifierText, cs = s.chars ++ '}' :: rest ∧ s.string = specifier := by
  unfold Item.readSpecifier at h
  dsimp only at h
  split at h
  · cases h
  · rename_i tail htail
    split at h
    · cases h
    · rename_i hne
      cases h
      refine ⟨⟨cs.takeWhile (!Item.isBrace ·), by simpa using hne, ?_⟩, ?_, rfl⟩
      · intro c hc
        have hbrace := List.mem_takeWhile_imp (p := fun c => !Item.isBrace c) hc
        simpa [Item.isBrace] using hbrace
      · rw [← htail]
        exact List.takeWhile_append_dropWhile.symm
  · cases h

theorem readEnd_specifierText (s : Option SpecifierText) (rest : List Char) :
    Item.readEnd (specifierText s ++ '}' :: rest) =
      .ok (s.map SpecifierText.string, rest) := by
  cases s with
  | none => rfl
  | some s =>
      show (Item.readSpecifier (s.chars ++ '}' :: rest)).map _ = _
      rw [readSpecifier_chars]
      rfl

theorem exists_specifierText_of_readEnd {cs rest : List Char} {specifier : Option String}
    (h : Item.readEnd cs = .ok (specifier, rest)) :
    ∃ s, cs = specifierText s ++ '}' :: rest ∧ s.map SpecifierText.string = specifier := by
  unfold Item.readEnd at h
  split at h
  · rename_i tail
    obtain ⟨⟨text, after⟩, hs, h⟩ := Attempt.map_eq_ok.mp h
    cases h
    obtain ⟨s, rfl, rfl⟩ := exists_chars_of_readSpecifier hs
    exact ⟨some s, rfl, rfl⟩
  · cases h
    exact ⟨none, rfl, rfl⟩
  · cases h

/-- The text of an item is read back, whatever follows it. -/
theorem read_body (t : ItemText) (rest : List Char) :
    Item.read (t.body ++ '}' :: rest) = .ok (t.item, rest) := by
  have hclosing := closing_specifierText t.specifier rest
  have hstops {p : Char → Bool} (hcomma : p ',' = false) (hcolon : p ':' = false)
      (hbrace : p '}' = false) := stops_alignmentText t.alignment hclosing hcomma hcolon hbrace
  unfold Item.read
  rw [ItemText.body_append, readNumber_digits _ (stops_spaces rfl _ (hstops rfl rfl rfl))]
  simp only [skipSpaces_spaces _ (hstops rfl rfl rfl), skipAlignment_alignmentText _ hclosing,
    readEnd_specifierText, bind, Except.bind]
  rfl

/-- Whatever is read as an item is the text of that item. -/
theorem exists_body_of_read {cs rest : List Char} {item : Item}
    (h : Item.read cs = .ok (item, rest)) :
    ∃ t : ItemText, cs = t.body ++ '}' :: rest ∧ t.item = item := by
  unfold Item.read at h
  split at h
  · cases h
  · rename_i v tail hnumber
    obtain ⟨index, rfl, rfl⟩ := exists_digits_of_readNumber hnumber
    obtain ⟨gap, hgap⟩ := exists_spaces_of_skipSpaces tail
    obtain ⟨aligned, ha, h⟩ := Attempt.bind_eq_ok.mp h
    obtain ⟨⟨specifier, after⟩, he, h⟩ := Attempt.bind_eq_ok.mp h
    cases h
    obtain ⟨alignment, halignment⟩ := exists_alignment_of_skipAlignment ha
    obtain ⟨text, htext, rfl⟩ := exists_specifierText_of_readEnd he
    refine ⟨⟨index, gap, alignment, text⟩, ?_, rfl⟩
    -- The parts are put together from the back, as each reader left the next its rest.
    rw [ItemText.body_append, ← htext, ← halignment, ← hgap]

/-! ## Whole values -/

/-- Scanning takes a segment off the front of a text and goes on with the rest. -/
theorem scanFrom_segment (s : Segment) (rest : List Char) :
    scanFrom (s.text ++ rest) = (s.item?.toList ++ (scanFrom rest).1, (scanFrom rest).2) := by
  cases s with
  | literal c hopen hclose =>
      -- Every other equation of the scan begins with a brace.
      show scanFrom (c :: rest) = _
      rw [scanFrom.eq_def]
      split
      · rename_i h
        cases h
      · rename_i h
        exact absurd (List.cons.inj h).1 hclose
      · rename_i h
        exact absurd (List.cons.inj h).1 hclose
      · rename_i h
        exact absurd (List.cons.inj h).1 hopen
      · rename_i h
        exact absurd (List.cons.inj h).1 hopen
      · rename_i h
        rw [(List.cons.inj h).2]
        rfl
  | openBraces =>
      show scanFrom ('{' :: '{' :: rest) = _
      rw [scanFrom]
      rfl
  | closeBraces =>
      show scanFrom ('}' :: '}' :: rest) = _
      rw [scanFrom]
      rfl
  | item t =>
      rw [Segment.item_text_append, scanFrom]
      · split
        · rename_i fault hread
          rw [read_body] at hread
          cases hread
        · rename_i item after hread
          rw [read_body] at hread
          cases hread
          rfl
      · exact body_append_ne_open t ('}' :: rest)

theorem scanFrom_render_append (xs : List Segment) (rest : List Char) :
    scanFrom (render xs ++ rest) = (items xs ++ (scanFrom rest).1, (scanFrom rest).2) := by
  induction xs with
  | nil => rfl
  | cons x xs ih =>
      rw [render_cons, List.append_assoc, scanFrom_segment, ih, items_cons, List.append_assoc]

theorem scanFrom_render (xs : List Segment) : scanFrom (render xs) = (items xs, none) := by
  have h := scanFrom_render_append xs []
  rw [List.append_nil, scanFrom, List.append_nil] at h
  exact h

/-- The fault at which the scan of a text stops at once: a brace that closes nothing, or a
malformed item. -/
inductive Breaks : List Char → Fault → Prop
  | strayBrace (rest : List Char) (hsingle : ∀ tail, rest ≠ '}' :: tail) :
      Breaks ('}' :: rest) ⟨.strayBrace, '}' :: rest⟩
  | item (body : List Char) (f : Fault) (hsingle : ∀ tail, body ≠ '{' :: tail)
      (hread : Item.read body = .error f) : Breaks ('{' :: body) f

theorem scanFrom_of_breaks {cs : List Char} {f : Fault} (h : Breaks cs f) :
    scanFrom cs = ([], some f) := by
  cases h with
  | strayBrace rest hsingle =>
      rw [scanFrom]
      exact hsingle
  | item body _ hsingle hread =>
      rw [scanFrom]
      · split
        · rename_i fault hfault
          cases hread.symm.trans hfault
          rfl
        · rename_i item after hitem
          cases hread.symm.trans hitem
      · exact hsingle

/-- Every text is a reading and, unless that is all, a text at which the scan stops. -/
theorem exists_reading (cs : List Char) :
    ∃ xs rest, cs = render xs ++ rest ∧ (rest = [] ∨ ∃ f, Breaks rest f) := by
  -- A reading of the rest is prolonged by the segment in front of it; a fault ends it.
  fun_induction scanFrom cs with
  | case1 => exact ⟨[], [], rfl, Or.inl rfl⟩
  | case2 rest ih =>
      obtain ⟨xs, tail, rfl, hend⟩ := ih
      exact ⟨.closeBraces :: xs, tail, rfl, hend⟩
  | case3 rest hsingle => exact ⟨[], _, rfl, Or.inr ⟨_, .strayBrace rest hsingle⟩⟩
  | case4 rest ih =>
      obtain ⟨xs, tail, rfl, hend⟩ := ih
      exact ⟨.openBraces :: xs, tail, rfl, hend⟩
  | case5 rest hsingle fault hread =>
      exact ⟨[], _, rfl, Or.inr ⟨fault, .item rest fault hsingle hread⟩⟩
  | case6 rest _ item after hread found fault hscan ih =>
      obtain ⟨t, rfl, rfl⟩ := exists_body_of_read hread
      obtain ⟨xs, tail, rfl, hend⟩ := ih
      refine ⟨.item t :: xs, tail, ?_, hend⟩
      rw [render_cons, List.append_assoc, Segment.item_text_append]
  | case7 c rest _ hclose _ hopen ih =>
      obtain ⟨xs, tail, rfl, hend⟩ := ih
      exact ⟨.literal c hopen hclose :: xs, tail, rfl, hend⟩

/-- Whatever is scanned has a reading up to the first fault, and the items that
were found are those of the reading. -/
theorem exists_render_of_scanFrom (cs : List Char) :
    ∃ xs rest, cs = render xs ++ rest ∧ (scanFrom cs).1 = items xs ∧
      ((scanFrom cs).2 = none → rest = []) := by
  obtain ⟨xs, rest, rfl, hrest | ⟨f, hbreaks⟩⟩ := exists_reading cs
  · subst hrest
    refine ⟨xs, [], rfl, ?_, fun _ => rfl⟩
    rw [List.append_nil, scanFrom_render]
  · rw [scanFrom_render_append, scanFrom_of_breaks hbreaks]
    refine ⟨xs, rest, rfl, List.append_nil _, ?_⟩
    intro hnone
    cases hnone

theorem scan_items (v : String) : (scan v).items = (scanFrom v.toList).1 := rfl

theorem scan_error (v : String) :
    (scan v).error = none ↔ (scanFrom v.toList).2 = none :=
  Option.map_eq_none_iff

theorem scan_error_eq_none_iff (v : String) :
    (scan v).error = none ↔ ∃ xs, render xs = v.toList := by
  rw [scan_error]
  constructor
  · intro h
    obtain ⟨xs, rest, htext, -, hend⟩ := exists_render_of_scanFrom v.toList
    rw [hend h, List.append_nil] at htext
    exact ⟨xs, htext.symm⟩
  · rintro ⟨xs, hxs⟩
    rw [← hxs, scanFrom_render]

theorem scan_items_of_render {v : String} {xs : List Segment} (h : render xs = v.toList) :
    (scan v).items = items xs := by
  rw [scan_items, ← h, scanFrom_render]

/-- A specifier in use stands in an item of the value. -/
theorem exists_item_of_use {v : String} {index : Nat} {t : String}
    (huse : (index, t) ∈ (scan v).uses) :
    ∃ (text : ItemText) (u : SpecifierText), text.specifier = some u ∧ u.string = t ∧
      (Segment.item text).text.Sublist v.toList := by
  obtain ⟨xs, rest, htext, hitems, -⟩ := exists_render_of_scanFrom v.toList
  rw [Scan.mem_uses, scan_items, hitems] at huse
  obtain ⟨segment, hsegment, hitem⟩ := List.mem_filterMap.mp huse
  cases segment with
  | literal _ _ _ | openBraces | closeBraces => cases hitem
  | item text =>
      have hspecifier : text.specifier.map SpecifierText.string = some t :=
        congrArg Item.specifier (Option.some.inj hitem)
      obtain ⟨u, hu, hstring⟩ := Option.map_eq_some_iff.mp hspecifier
      have hsublist : (Segment.item text).text.Sublist (render xs) :=
        List.sublist_flatten_of_mem (List.mem_map_of_mem hsegment)
      rw [htext]
      exact ⟨text, u, hu, hstring, hsublist.trans (List.sublist_append_left _ _)⟩

/-- **Scanning recognises the grammar.** A value scans without error exactly if it
has a reading. Its reading is then the only one, and uses and placeholders are those
of the items of the reading. -/
theorem scan_recognises (v : String) :
    ((scan v).error = none ↔ ∃ xs, render xs = v.toList) ∧
    ∀ xs, render xs = v.toList →
      (∀ ys, render ys = v.toList → ys = xs) ∧
      (∀ us, (scan v).uses = us ↔ FirstAppearances (specified (items xs)) us) ∧
      (∀ index, index ∈ (scan v).placeholders.map Prod.fst ↔
        index ∈ (items xs).map Item.index) ∧
      ((scan v).placeholders.map Prod.fst).Nodup ∧
      ∀ index recorded, (index, recorded) ∈ (scan v).placeholders →
        Records (items xs) index recorded := by
  refine ⟨scan_error_eq_none_iff v, ?_⟩
  intro xs hxs
  have hitems := scan_items_of_render hxs
  refine ⟨?_, ?_, ?_, ?_, ?_⟩
  · intro ys hys
    exact render_injective (hys.trans hxs.symm)
  · intro us
    rw [Scan.uses_eq_eraseDups, hitems, firstAppearances_iff]
    exact eq_comm
  · intro index
    rw [Scan.keys_placeholders, Scan.mem_indexes, hitems]
  · rw [Scan.keys_placeholders]
    exact (Scan.pairwise_indexes _).imp fun hlt => Nat.ne_of_lt hlt
  · intro index recorded hmem
    rw [← hitems]
    exact Scan.records_of_mem_placeholders hmem

/-- The reading of a value with a doubled brace on either side of an item. -/
def bracedReading : List Segment :=
  [.openBraces,
    .item ⟨⟨['1'], by simp, by simp, by decide⟩, 0,
      some ⟨1, true, ⟨['0', '5'], by simp, by simp, by decide⟩, 2⟩,
      some ⟨['N', '2'], by simp, by simp⟩⟩,
    .closeBraces, .literal ' ' (by decide) (by decide),
    .item ⟨⟨['0'], by simp, by simp, by decide⟩, 1, none, none⟩]

theorem scan_recognises_bracedReading :
    render bracedReading = "{{{1, -05  :N2}}} {0 }".toList ∧
      (scan "{{{1, -05  :N2}}} {0 }").error = none ∧
      ∀ us, (scan "{{{1, -05  :N2}}} {0 }").uses = us ↔
        FirstAppearances (specified (items bracedReading)) us := by
  have hreading : render bracedReading = "{{{1, -05  :N2}}} {0 }".toList := rfl
  have hscan := scan_recognises "{{{1, -05  :N2}}} {0 }"
  exact ⟨hreading, hscan.1.mpr ⟨bracedReading, hreading⟩, (hscan.2 bracedReading hreading).2.1⟩

end ResourceAudit.Format
