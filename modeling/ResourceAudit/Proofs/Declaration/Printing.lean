import ResourceAudit.Proofs.Declaration.Grammar
import ResourceAudit.Proofs.Declaration.Mode
import ResourceAudit.Resource.Item

/-!
# Printed modes

A mode that was read from a comment can be printed, as a parameter list or as a list of
variants, and the printed text declares the same mode (`printed_mode_reads_back`). Printing
joins with a comma and a space, while reading cuts at commas and ends at the first closing
bracket. What comes back rests on the form of everything that can be read: parameters are
well formed, and variants are trimmed, not empty, and without commas and closing brackets.
-/

namespace ResourceAudit.Mode

/-! ## What can be read -/

/-- A parameter list that is read is not empty, and all its parameters are well formed. -/
theorem wellFormed_of_readParameters {comment body : List Char} {ps : List Parameter}
    (h : readParameters comment body = .ok ps) : ps ≠ [] ∧ ∀ p ∈ ps, p.WellFormed := by
  refine ⟨ne_nil_of_readParameters h, ?_⟩
  have hall := readParameters_eq_ok_iff.mp h
  generalize Text.pieces ',' body = pieces at hall
  clear h
  induction hall with
  | nil => simp
  | cons hread _ ih =>
      exact List.forall_mem_cons.mpr ⟨Parameter.wellFormed_of_parse? hread, ih⟩

/-! ## Joined texts -/

/-- Texts in the form in which lists are printed. -/
def joined (texts : List String) : List Char :=
  (String.intercalate ", " texts).toList

theorem joined_eq (texts : List String) :
    joined texts = List.intercalate (',' :: [' ']) (texts.map String.toList) :=
  String.toList_intercalate

theorem notMem_joined {texts : List String} {c : Char} (hc : c ∉ [',', ' '])
    (h : ∀ text ∈ texts, c ∉ text.toList) : c ∉ joined texts := by
  rw [joined_eq]
  induction texts with
  | nil => exact List.not_mem_nil
  | cons text texts ih =>
      obtain ⟨htext, htexts⟩ := List.forall_mem_cons.mp h
      cases texts with
      | nil => simpa using htext
      | cons next texts =>
          rw [List.map_cons, List.map_cons, List.intercalate_cons_cons, List.mem_append,
            List.mem_append, not_or, not_or]
          exact ⟨⟨htext, hc⟩, ih htexts⟩

/-- Reading cuts a printed list where it was joined; a space is left in front of all texts
but the first. -/
theorem pieces_joined {text : String} {texts : List String}
    (h : ∀ t ∈ text :: texts, ',' ∉ t.toList) :
    Text.pieces ',' (joined (text :: texts)) =
      text.toList :: texts.map fun t => ' ' :: t.toList := by
  obtain ⟨htext, htexts⟩ := List.forall_mem_cons.mp h
  rw [joined_eq, List.map_cons, Text.pieces_intercalate [' '] _ _ (by decide) htext
    (List.forall_mem_map.mpr htexts), List.map_map]
  rfl

/-! ## Printed parameters -/

/-- A declaration holds neither the separator of a list nor its end. -/
theorem notMem_declaration {p : Parameter} (h : p.WellFormed) {c : Char} (hc : c = ',' ∨ c = '}') :
    c ∉ p.declaration.toList := by
  have hother : Text.isWord c = false ∧ c ∉ ['@', '.', '?', ' '] := by
    rcases hc with rfl | rfl <;> decide +kernel
  intro hmem
  rcases h.mem_declaration hmem with hword | hlisted
  · exact Bool.noConfusion (hother.1.symm.trans hword)
  · exact hother.2 hlisted

theorem readParameters_joined {ps : List Parameter} (hne : ps ≠ []) (h : ∀ p ∈ ps, p.WellFormed)
    (comment : List Char) :
    readParameters comment (joined (ps.map Parameter.declaration)) = .ok ps := by
  obtain ⟨p, ps, rfl⟩ := List.exists_cons_of_ne_nil hne
  have hcomma : ∀ t ∈ (p :: ps).map Parameter.declaration, ',' ∉ t.toList :=
    List.forall_mem_map.mpr fun q hq => notMem_declaration (h q hq) (Or.inl rfl)
  obtain ⟨hp, hps⟩ := List.forall_mem_cons.mp h
  have hpieces := pieces_joined hcomma
  rw [← List.map_cons] at hpieces
  rw [readParameters_eq_ok_iff, hpieces, List.map_map]
  refine .cons (hp.parse?_append (w := []) rfl) ?_
  rw [List.forall₂_map_left_iff, List.forall₂_same]
  intro q hq
  exact (hps q hq).parse?_append (w := [' ']) rfl

/-! ## Printed variants -/

/-- The form of a variant that was read from a list. -/
structure IsVariant (v : String) : Prop where
  trimmed : Text.trim v.toList = v.toList
  ne_nil : v.toList ≠ []
  no_comma : ',' ∉ v.toList
  no_bracket : ')' ∉ v.toList

theorem isVariant_of_mem_readVariants {list : List Char} (hlist : ')' ∉ list) {v : String}
    (hv : v ∈ readVariants list) : IsVariant v := by
  obtain ⟨cs, hcs, rfl⟩ := List.mem_map.mp hv
  obtain ⟨hcs, hne⟩ := List.mem_filter.mp hcs
  obtain ⟨piece, hpiece, rfl⟩ := List.mem_map.mp hcs
  constructor
  · rw [String.toList_ofList]
    exact Text.trim_trim piece
  · rw [String.toList_ofList]
    simpa using hne
  · rw [String.toList_ofList]
    intro hc
    exact (Text.mem_of_mem_piece hpiece (Text.mem_of_mem_trim hc)).2 rfl
  · rw [String.toList_ofList]
    intro hc
    exact hlist (Text.mem_of_mem_piece hpiece (Text.mem_of_mem_trim hc)).1

theorem readVariants_joined {vs : List String} (h : ∀ v ∈ vs, IsVariant v) :
    readVariants (joined vs) = vs := by
  cases vs with
  | nil => rfl
  | cons v vs =>
      have htrim : ∀ u ∈ v :: vs, Text.trim (' ' :: u.toList) = u.toList := by
        intro u hu
        exact (Text.trim_append_of_allBlank (w := [' ']) rfl u.toList).trans (h u hu).trimmed
      have hpieces : (Text.pieces ',' (joined (v :: vs))).map Text.trim =
          (v :: vs).map String.toList := by
        rw [pieces_joined fun u hu => (h u hu).no_comma, List.map_cons, List.map_cons,
          (h v List.mem_cons_self).trimmed, List.map_map]
        refine congrArg (v.toList :: ·) (List.map_congr_left ?_)
        intro u hu
        exact htrim u (List.mem_cons_of_mem v hu)
      have hkept : ((v :: vs).map String.toList).filter (!·.isEmpty) =
          (v :: vs).map String.toList := by
        refine List.filter_eq_self.mpr (List.forall_mem_map.mpr ?_)
        intro u hu
        simpa using (h u hu).ne_nil
      rw [readVariants, hpieces, hkept, List.map_map]
      exact (List.map_congr_left fun u _ => String.ofList_toList).trans (List.map_id _)

/-! ## Reading back -/

theorem ofComment_parameterList {ps : List Parameter} (hne : ps ≠ [])
    (h : ∀ p ∈ ps, p.WellFormed) {item : Item} (hitem : item.mode = .parameterized ps) :
    ofComment (some ("\x7b" ++ item.declaration ++ "\x7d")) = .ok (.parameterized ps) := by
  have htext : ("\x7b" ++ item.declaration ++ "\x7d").toList =
      '{' :: (joined (ps.map Parameter.declaration) ++ '}' :: []) := by
    rw [String.toList_append, String.toList_append, Item.declaration,
      Item.parameters_of_parameterized hitem]
    rfl
  have hend : '}' ∉ joined (ps.map Parameter.declaration) :=
    notMem_joined (by decide)
      (List.forall_mem_map.mpr fun p hp => notMem_declaration (h p hp) (Or.inr rfl))
  show read _ = _
  rw [htext, read_parameterList (Text.dropBlank_cons_of_not_blank (by decide) _) hend,
    readParameters_joined hne h]
  rfl

theorem ofComment_variantList {vs : List String} (h : ∀ v ∈ vs, IsVariant v) :
    ofComment (some ("!" ++ describe vs)) = .ok (.enumeration vs) := by
  have htext : ("!" ++ describe vs).toList = '!' :: '(' :: (joined vs ++ ')' :: []) := by
    rw [describe, String.toList_append, String.toList_append, String.toList_append]
    rfl
  have hend : ')' ∉ joined vs := notMem_joined (by decide) fun v hv => (h v hv).no_bracket
  show read _ = _
  rw [htext, read_variantList (Text.dropBlank_cons_of_not_blank (by decide) _) hend,
    readVariants_joined h]

/-- **A printed mode reads back.** The parameter list of an item, put in braces, declares the
parameters of the item again, and each of them is read back alone. The printed list of
variants declares the same variants. -/
theorem printed_mode_reads_back (comment : Option String) :
    (∀ ps, ofComment comment = .ok (.parameterized ps) →
      (∀ item : Item, item.mode = .parameterized ps →
        ofComment (some ("\x7b" ++ item.declaration ++ "\x7d")) = .ok (.parameterized ps)) ∧
      ∀ p ∈ ps, Parameter.parse? (p.type ++ " " ++ p.name) = some p) ∧
    (∀ vs, ofComment comment = .ok (.enumeration vs) →
      ofComment (some ("!" ++ describe vs)) = .ok (.enumeration vs)) := by
  cases comment with
  | none => exact ⟨nofun, nofun⟩
  | some comment =>
      constructor
      · intro ps hps
        obtain ⟨body, hbody⟩ := exists_body_of_read hps
        obtain ⟨hne, hwell⟩ := wellFormed_of_readParameters hbody
        constructor
        · intro item hitem
          exact ofComment_parameterList hne hwell hitem
        · intro p hp
          exact (hwell p hp).parse?_declaration
      · intro vs hvs
        obtain ⟨list, hlist, rfl⟩ := exists_list_of_read hvs
        exact ofComment_variantList fun v hv => isVariant_of_mem_readVariants hlist hv

/-! ## Two comments with blanks and notes -/

def spacedParameters : List Parameter := [⟨"System.Int32?", "count"⟩, ⟨"@if", "²x"⟩]

def spacedItem : Item :=
  ⟨"total", "\x7b0\x7d\x7b1\x7d", stringType, .parameterized spacedParameters, [0, 1]⟩

theorem printed_mode_reads_back_spaced :
    ofComment (some " \x7b System . Int32 ? count ,\t@if ²x\n\x7d note, \x7d") =
        .ok (.parameterized spacedParameters) ∧
      ofComment (some ("\x7b" ++ spacedItem.declaration ++ "\x7d")) =
        .ok (.parameterized spacedParameters) ∧
      ofComment (some "!( not now ,, \x7b,)(soon)") = .ok (.enumeration ["not now", "\x7b"]) ∧
      ofComment (some ("!" ++ describe ["not now", "\x7b"])) =
        .ok (.enumeration ["not now", "\x7b"]) := by
  have hparameters :
      ofComment (some " \x7b System . Int32 ? count ,\t@if ²x\n\x7d note, \x7d") =
        .ok (.parameterized spacedParameters) := by decide +kernel
  have hvariants : ofComment (some "!( not now ,, \x7b,)(soon)") =
      .ok (.enumeration ["not now", "\x7b"]) := by decide +kernel
  exact ⟨hparameters, ((printed_mode_reads_back _).1 _ hparameters).1 spacedItem rfl, hvariants,
    (printed_mode_reads_back _).2 _ hvariants⟩

end ResourceAudit.Mode
