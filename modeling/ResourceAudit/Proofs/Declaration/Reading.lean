import ResourceAudit.Proofs.Declaration.Identifier

/-!
# Readings of a declaration

A declaration is a dotted name, an optional marker and a name, with blanks in between. A text may
be read in several ways, since blanks may be counted to one part or to another, but all of them
say the same: a text is accepted exactly if it has a reading, and what is returned is the parameter
of every reading it has (`declarations_recognised`).
-/

namespace ResourceAudit.Parameter

open Text (isWord isBlank dropBlank allBlank withoutBlank Stops)

/-- A way to read a text as a declaration. -/
structure Reading (text : List Char) where
  before : List Char
  dotted : List Char
  gap : List Char
  marker : List Char
  space : List Char
  name : List Char
  after : List Char
  blank_before : allBlank before = true
  spaced : Spaced dotted
  blank_gap : allBlank gap = true
  marked : marker = [] ∨ marker = ['?']
  blank_space : allBlank space = true
  space_ne_nil : space ≠ []
  valid_name : Identifier.Valid name
  blank_after : allBlank after = true
  text_eq : text = before ++ (dotted ++ (gap ++ (marker ++ (space ++ (name ++ after)))))

/-- What a reading says: the type without its blanks, and the name. -/
def Reading.parameter {text : List Char} (r : Reading text) : Parameter :=
  ⟨String.ofList (withoutBlank r.dotted ++ r.marker), String.ofList r.name⟩

theorem Reading.exists_not_blank {text : List Char} (r : Reading text) :
    ∃ c ∈ text, isBlank c = false := by
  obtain ⟨c, hc, hblank⟩ := r.valid_name.exists_not_blank
  refine ⟨c, ?_, hblank⟩
  have hmem : c ∈ r.before ++
      (r.dotted ++ (r.gap ++ (r.marker ++ (r.space ++ (r.name ++ r.after))))) := by
    simp [hc]
  exact r.text_eq ▸ hmem

/-! ## The parts of a declaration -/

theorem readName_eq_some_iff {cs name : List Char} :
    readName cs = some name ↔
      ∃ space after, allBlank space = true ∧ space ≠ [] ∧ Identifier.Valid name ∧
        allBlank after = true ∧ cs = space ++ (name ++ after) := by
  constructor
  · intro h
    cases cs with
    | nil => cases h
    | cons c rest =>
        rw [readName] at h
        split at h
        · rename_i hc
          obtain ⟨w, hw, hrest⟩ := Text.exists_blank_append rest
          split at h
          · rename_i name' after hread
            split at h
            · rename_i hafter
              cases h
              obtain ⟨hname, -, hsplit⟩ := Identifier.read_eq_some_iff.mp hread
              refine ⟨c :: w, after, ?_, List.cons_ne_nil c w, hname, hafter, ?_⟩
              · simp only [allBlank, List.all_cons, hc, Bool.true_and]
                exact hw
              · rw [List.cons_append, ← hsplit, ← hrest]
            · cases h
          · cases h
        · cases h
  · rintro ⟨space, after, hspace, hne, hname, hafter, rfl⟩
    obtain ⟨c, space, rfl⟩ := List.exists_cons_of_ne_nil hne
    simp only [allBlank, List.all_cons, Bool.and_eq_true] at hspace
    have hstops : Stops isWord after := by
      simpa using Text.stops_nil.allBlank_append hafter
    have hread : Identifier.read (dropBlank (space ++ (name ++ after))) = some (name, after) := by
      rw [Text.dropBlank_append_of_allBlank hspace.2, hname.dropBlank_append]
      exact Identifier.read_eq_some_iff.mpr ⟨hname, hstops, rfl⟩
    rw [List.cons_append, readName, if_pos hspace.1, hread]
    exact if_pos hafter

/-- What is left after the marker, with the blanks in front of it, gives back the text. -/
theorem exists_gap_of_readNullable (cs : List Char) :
    ∃ gap, allBlank gap = true ∧ cs = gap ++ ((readNullable cs).1 ++ (readNullable cs).2) := by
  unfold readNullable
  split
  · rename_i rest hmarker
    obtain ⟨gap, hgap, hcs⟩ := Text.exists_blank_append cs
    exact ⟨gap, hgap, hcs.trans (congrArg (gap ++ ·) hmarker)⟩
  · exact ⟨[], rfl, rfl⟩

theorem marker_readNullable (cs : List Char) :
    (readNullable cs).1 = [] ∨ (readNullable cs).1 = ['?'] := by
  unfold readNullable
  split
  · exact Or.inr rfl
  · exact Or.inl rfl

theorem readNullable_marked {gap : List Char} (hgap : allBlank gap = true) (rest : List Char) :
    readNullable (gap ++ '?' :: rest) = (['?'], rest) := by
  have hdrop : dropBlank (gap ++ '?' :: rest) = '?' :: rest := by
    rw [Text.dropBlank_append_of_allBlank hgap]
    exact Text.dropBlank_cons_of_not_blank (by decide) rest
  unfold readNullable
  rw [hdrop]
  rfl

theorem readNullable_unmarked {cs : List Char} (h : ∀ rest, dropBlank cs ≠ '?' :: rest) :
    readNullable cs = ([], cs) := by
  unfold readNullable
  split
  · rename_i hmarker
    exact absurd hmarker (h _)
  · rfl

theorem parse?_eq_some_iff {text : String} {p : Parameter} :
    parse? text = some p ↔
      ∃ type rest name, readDotted (dropBlank text.toList) = some (type, rest) ∧
        readName (readNullable rest).2 = some name ∧
        ⟨String.ofList (type ++ (readNullable rest).1), String.ofList name⟩ = p := by
  unfold parse?
  simp only [bind, Option.bind_eq_some_iff, pure, Option.some.injEq, Prod.exists]
  constructor
  · rintro ⟨type, rest, hdotted, name, hname, hp⟩
    exact ⟨type, rest, name, hdotted, hname, hp⟩
  · rintro ⟨type, rest, name, hdotted, hname, hp⟩
    exact ⟨type, rest, hdotted, name, hname, hp⟩

/-! ## Readings -/

theorem exists_reading {text : String} {p : Parameter} (h : parse? text = some p) :
    ∃ r : Reading text.toList, r.parameter = p := by
  obtain ⟨type, rest, name, hdotted, hname, rfl⟩ := parse?_eq_some_iff.mp h
  obtain ⟨before, hbefore, htext⟩ := Text.exists_blank_append text.toList
  obtain ⟨dotted, hspaced, rfl, hsplit⟩ := exists_spaced_of_readDotted hdotted
  obtain ⟨gap, hgap, hrest⟩ := exists_gap_of_readNullable rest
  obtain ⟨space, after, hspace, hne, hvalid, hafter, hend⟩ := readName_eq_some_iff.mp hname
  refine ⟨⟨before, dotted, gap, (readNullable rest).1, space, name, after, hbefore, hspaced, hgap,
    marker_readNullable rest, hspace, hne, hvalid, hafter, ?_⟩, rfl⟩
  rw [← hend, ← hrest, ← hsplit]
  exact htext

/-- The name begins with neither a dot nor a marker. -/
theorem dropBlank_name_ne {w name : List Char} (hw : allBlank w = true)
    (hname : Identifier.Valid name) {c : Char} (hc : Identifier.isStart c = false)
    (after rest : List Char) : dropBlank (w ++ (name ++ after)) ≠ c :: rest := by
  rw [Text.dropBlank_append_of_allBlank hw, hname.dropBlank_append]
  obtain ⟨c', run, hstart, -⟩ := hname
  intro heq
  have hsame := (List.cons.inj heq).1
  simp [hsame, hc] at hstart

theorem parse?_of_reading {text : String} (r : Reading text.toList) :
    parse? text = some r.parameter := by
  obtain ⟨before, dotted, gap, marker, space, name, after, hbefore, hspaced, hgap, hmarker, hspace,
    hne, hname, hafter, htext⟩ := r
  have hstart : dropBlank text.toList =
      dotted ++ (gap ++ (marker ++ (space ++ (name ++ after)))) := by
    rw [htext, Text.dropBlank_append_of_allBlank hbefore, hspaced.dropBlank_append]
  refine parse?_eq_some_iff.mpr
    ⟨withoutBlank dotted, gap ++ (marker ++ (space ++ (name ++ after))), name, ?_⟩
  rw [hstart]
  rcases hmarker with rfl | rfl
  · -- The gap and the space are one run of blanks, and the reader leaves all of it to the name.
    have hblank : allBlank (gap ++ space) = true := Text.allBlank_append.mpr ⟨hgap, hspace⟩
    have hjoined : gap ++ ([] ++ (space ++ (name ++ after))) = gap ++ space ++ (name ++ after) := by
      simp
    have hstops := Text.stops_isWord_of_allBlank hblank (by simp [hne]) (name ++ after)
    rw [hjoined, readNullable_unmarked
      (dropBlank_name_ne hblank hname (by decide +kernel) after)]
    refine ⟨readDotted_spaced hspaced hstops
      (dropBlank_name_ne hblank hname (by decide +kernel) after), ?_, rfl⟩
    exact readName_eq_some_iff.mpr
      ⟨gap ++ space, after, hblank, by simp [hne], hname, hafter, rfl⟩
  · have hmarked : gap ++ (['?'] ++ (space ++ (name ++ after))) =
        gap ++ '?' :: (space ++ (name ++ after)) := rfl
    have hstops : Stops isWord (gap ++ '?' :: (space ++ (name ++ after))) :=
      Text.Stops.allBlank_append (Text.stops_cons.mpr (by decide +kernel)) hgap
    rw [hmarked, readNullable_marked hgap]
    refine ⟨readDotted_spaced hspaced hstops ?_, ?_, rfl⟩
    · intro rest hdot
      rw [Text.dropBlank_append_of_allBlank hgap,
        Text.dropBlank_cons_of_not_blank (by decide)] at hdot
      cases hdot
    · exact readName_eq_some_iff.mpr ⟨space, after, hspace, hne, hname, hafter, rfl⟩

/-- **Declarations are recognised exactly.** A text is accepted if and only if it can be read as a
declaration, and every way to read it says what is returned. -/
theorem declarations_recognised (text : String) :
    ((∃ p, parse? text = some p) ↔ Nonempty (Reading text.toList)) ∧
      ∀ r : Reading text.toList, parse? text = some r.parameter := by
  refine ⟨⟨?_, ?_⟩, parse?_of_reading⟩
  · rintro ⟨p, hp⟩
    obtain ⟨r, -⟩ := exists_reading hp
    exact ⟨r⟩
  · rintro ⟨r⟩
    exact ⟨r.parameter, parse?_of_reading r⟩

/-! ## A declaration with blanks wherever they may stand -/

def spacedText : String := "\n A\u2003. @b2 ? @\t"

/-- The name is a sole `@`. The first part of the type is set off by a blank that is not ASCII. -/
def spacedReading : Reading spacedText.toList where
  before := "\n ".toList
  dotted := "A\u2003. @b2".toList
  gap := [' ']
  marker := ['?']
  space := [' ']
  name := ['@']
  after := ['\t']
  blank_before := by decide
  spaced := @Spaced.dot ['A'] ['\u2003'] [' '] "@b2".toList
    (.mk 'A' [] (by decide +kernel) nofun) (by decide) (by decide)
    (.single (.mk '@' ['b', '2'] (by decide +kernel) (List.all_eq_true.mp (by decide +kernel))))
  blank_gap := by decide
  marked := .inr rfl
  blank_space := by decide
  space_ne_nil := by decide
  valid_name := .mk '@' [] (by decide +kernel) nofun
  blank_after := by decide
  text_eq := by decide

theorem declarations_recognised_spaced :
    Nonempty (Reading spacedText.toList) ∧ parse? spacedText = some ⟨"A.@b2?", "@"⟩ :=
  ⟨⟨spacedReading⟩, (declarations_recognised spacedText).2 spacedReading⟩

end ResourceAudit.Parameter
