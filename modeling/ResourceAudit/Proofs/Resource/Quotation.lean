import ResourceAudit.Proofs.Check.Quotation
import ResourceAudit.Resource.Document

/-!
# What the reader quotes

The texts of a document tree are its tags, the values of its attributes and the texts between
the tags. The reader makes entries of them and quotes them in what it reports, so it reports a
broken line only of a document that holds one (`stems_of_ofTree`, `whole_of_ofTree`).
-/

namespace ResourceAudit

open Text (OneLine oneLine_ofList)

namespace Markup.Node

mutual

/-- The tags, attribute values and texts at or below a node. -/
def words : Node → List String
  | text content => [content]
  | element tag attributes children => tag :: attributes.map Prod.snd ++ wordsAll children

def wordsAll : List Node → List String
  | [] => []
  | node :: rest => words node ++ wordsAll rest

end

/-- Nothing in a tree breaks a line. -/
def Whole (n : Node) : Prop :=
  ∀ word ∈ n.words, OneLine word

theorem wordsAll_eq (nodes : List Node) : wordsAll nodes = nodes.flatMap words := by
  induction nodes with
  | nil => rfl
  | cons node rest ih => rw [wordsAll, ih, List.flatMap_cons]

mutual

theorem texts_subset_words : ∀ n : Node, n.texts ⊆ n.words
  | text content => by
      rw [texts, words]
      exact List.Subset.refl _
  | element tag attributes children => by
      rw [texts, words]
      exact List.subset_append_of_subset_right _ (textsAll_subset_wordsAll children)

theorem textsAll_subset_wordsAll : ∀ nodes : List Node, textsAll nodes ⊆ wordsAll nodes
  | [] => by
      rw [textsAll, wordsAll]
      exact List.Subset.refl _
  | node :: rest => by
      rw [textsAll, wordsAll]
      exact List.append_subset.mpr
        ⟨List.subset_append_of_subset_left _ (texts_subset_words node),
          List.subset_append_of_subset_right _ (textsAll_subset_wordsAll rest)⟩

end

mutual

/-- The words of an element that is found are words of the tree. -/
theorem words_of_mem_elements (tag : String) : ∀ (n : Node), ∀ m ∈ n.elements tag,
    m.words ⊆ n.words
  | text _, m, hm => absurd hm List.not_mem_nil
  | element own attributes children, m, hm => by
      have hbelow : m ∈ elementsAll tag children →
          m.words ⊆ (element own attributes children).words := by
        intro hm
        rw [words]
        exact List.subset_append_of_subset_right _ (words_of_mem_elementsAll tag children m hm)
      rw [elements] at hm
      split at hm
      · rcases List.mem_cons.mp hm with rfl | hm
        · exact List.Subset.refl _
        · exact hbelow hm
      · exact hbelow hm

theorem words_of_mem_elementsAll (tag : String) : ∀ (nodes : List Node),
    ∀ m ∈ elementsAll tag nodes, m.words ⊆ wordsAll nodes
  | [], m, hm => absurd hm List.not_mem_nil
  | node :: rest, m, hm => by
      rw [elementsAll] at hm
      rw [wordsAll]
      rcases List.mem_append.mp hm with hm | hm
      · exact List.subset_append_of_subset_left _ (words_of_mem_elements tag node m hm)
      · exact List.subset_append_of_subset_right _ (words_of_mem_elementsAll tag rest m hm)

end

variable {n : Node}

theorem Whole.of_mem_elements (h : n.Whole) {tag : String} {m : Node}
    (hm : m ∈ n.elements tag) : m.Whole :=
  fun word hword => h word (words_of_mem_elements tag n m hm hword)

theorem Whole.content (h : n.Whole) : OneLine n.content := by
  intro c hc
  rw [Node.content, String.toList_join] at hc
  obtain ⟨text, htext, hc⟩ := List.mem_flatMap.mp hc
  exact h text (texts_subset_words n htext) c hc

theorem Whole.tag (h : n.Whole) {tag : String} (htag : n.tag? = some tag) : OneLine tag := by
  cases n with
  | text => cases htag
  | element =>
      cases htag
      exact h tag (by simp [words])

theorem Whole.attribute (h : n.Whole) {name value : String}
    (hvalue : n.attribute? name = some value) : OneLine value := by
  cases n with
  | text => cases hvalue
  | element own attributes children =>
      obtain ⟨front, back, hattributes, -⟩ := List.lookup_eq_some_iff.mp hvalue
      apply h
      simp [words, hattributes]

theorem Whole.taggedChild (h : n.Whole) {child : String × Node}
    (hchild : child ∈ n.taggedChildren) : OneLine child.1 ∧ child.2.Whole := by
  obtain ⟨m, hm, hchild⟩ := List.mem_filterMap.mp hchild
  obtain ⟨tag, htag, rfl⟩ := Option.map_eq_some_iff.mp hchild
  have hwhole : m.Whole := by
    cases n with
    | text => exact absurd hm List.not_mem_nil
    | element own attributes children =>
        intro word hword
        apply h
        rw [words, wordsAll_eq]
        exact List.mem_append_right _ (List.mem_flatMap.mpr ⟨m, hm, hword⟩)
  exact ⟨hwhole.tag htag, hwhole⟩

end Markup.Node

namespace Reading

open Markup (Node)

theorem oneLine_strip {s : String} (h : OneLine s) : OneLine (Text.strip s) :=
  oneLine_ofList fun c hc => h c (Text.mem_of_mem_trim hc)

/-! ## Entries -/

/-- Nothing that the children of an entry have said breaks a line. -/
structure Fields.Whole (fields : Fields) : Prop where
  value : ∀ value, fields.value = some value → OneLine value
  comment : ∀ comment, fields.comment = some comment → OneLine comment
  findings : ∀ f ∈ fields.findings, f.Whole

theorem whole_nothing : Fields.Whole ⟨none, none, []⟩ :=
  ⟨nofun, nofun, nofun⟩

variable {name : String}

theorem whole_addChild (hname : OneLine name) {fields : Fields} (h : fields.Whole)
    {child : String × Node} (hchild : OneLine child.1 ∧ child.2.Whole) :
    (addChild name fields child).Whole := by
  obtain ⟨htag, hcontent⟩ := hchild
  unfold addChild
  split
  · refine ⟨?_, h.comment, List.forall_mem_append.mpr ⟨h.findings, ?_⟩⟩
    · rintro value hvalue
      cases hvalue
      exact hcontent.content
    · intro f hf
      obtain ⟨previous, hprevious, rfl⟩ := Option.map_eq_some_iff.mp (Option.mem_toList.mp hf)
      simp [Finding.Whole, Finding.quoted, hname, h.value previous hprevious]
  · split
    · refine ⟨h.value, ?_, List.forall_mem_append.mpr ⟨h.findings, ?_⟩⟩
      · rintro comment hcomment
        cases hcomment
        exact hcontent.content
      · intro f hf
        obtain ⟨previous, hprevious, rfl⟩ := Option.map_eq_some_iff.mp (Option.mem_toList.mp hf)
        simp [Finding.Whole, Finding.quoted, hname, h.comment previous hprevious]
    · refine ⟨h.value, h.comment, List.forall_mem_append.mpr ⟨h.findings, ?_⟩⟩
      simp [Finding.Whole, Finding.quoted, hname, htag]

theorem whole_foldl_addChild (hname : OneLine name) {fields : Fields} (h : fields.Whole)
    {children : List (String × Node)}
    (hchildren : ∀ child ∈ children, OneLine child.1 ∧ child.2.Whole) :
    (children.foldl (addChild name) fields).Whole := by
  induction children generalizing fields with
  | nil => exact h
  | cons child children ih =>
      obtain ⟨hchild, hchildren⟩ := List.forall_mem_cons.mp hchildren
      exact ih (whole_addChild hname h hchild) hchildren

/-- An element breaks no line: neither does its entry, nor what is found wrong with it. -/
theorem whole_entryOf {node : Node} (h : node.Whole) :
    (∀ e, (entryOf node).1 = some e → e.Whole) ∧ ∀ f ∈ (entryOf node).2, f.Whole := by
  unfold entryOf
  split
  · refine ⟨?_, ?_⟩
    · rintro e ⟨⟩
    · simp [Finding.Whole, Finding.quoted]
  · rename_i name hname
    have hstrip : OneLine (Text.strip name) := oneLine_strip (h.attribute hname)
    have hfields := whole_foldl_addChild hstrip whole_nothing fun child hchild =>
      h.taggedChild hchild
    dsimp only
    split
    · refine ⟨?_, List.forall_mem_append.mpr ⟨hfields.findings, ?_⟩⟩
      · rintro e ⟨⟩
      · simp [Finding.Whole, Finding.quoted, hstrip]
    · rename_i value hvalue
      refine ⟨?_, hfields.findings⟩
      intro e he
      cases he
      simpa [Entry.Whole, Entry.texts, hstrip, hfields.value value hvalue] using hfields.comment

/-! ## Documents -/

variable {file : String} {root : Node}

theorem mem_of_mem_ofDiagnostics {ds : List Diagnostic} {d : Diagnostic}
    (hd : d ∈ (Result.ofDiagnostics ds).diagnostics) : d ∈ ds := by
  rcases List.mem_append.mp hd with hd | hd
  · exact (List.mem_filter.mp hd).1
  · exact (List.mem_filter.mp hd).1

theorem stems_of_mem_reported {findings : List Finding} {sources : Prop} {d : Diagnostic}
    (hd : d ∈ (Result.ofDiagnostics (reported file findings)).diagnostics)
    (h : sources → ∀ f ∈ findings, f.Whole) : d.Stems (some file) sources :=
  Check.stems_of_mem_reportAll (mem_of_mem_ofDiagnostics hd) h

/-- What is reported about a document quotes its words. -/
theorem stems_of_ofTree {d : Diagnostic} (hd : d ∈ (ofTree file root).result.diagnostics) :
    d.Stems (some file) root.Whole := by
  unfold ofTree at hd
  split at hd
  · refine stems_of_mem_reported hd fun hroot f hf => ?_
    rw [List.mem_singleton.mp hf]
    cases htag : root.tag? with
    | none => simp [Finding.Whole, Finding.quoted]
    | some tag => simp [Finding.Whole, Finding.quoted, hroot.tag htag]
  · refine stems_of_mem_reported hd fun hroot f hf => ?_
    obtain ⟨findings, hfindings, hf⟩ := List.mem_flatten.mp hf
    obtain ⟨read, hread, rfl⟩ := List.mem_map.mp hfindings
    obtain ⟨node, hnode, rfl⟩ := List.mem_map.mp hread
    exact (whole_entryOf (hroot.of_mem_elements hnode)).2 f hf

/-- The entries of a document hold its words. -/
theorem whole_of_ofTree (h : root.Whole) {e : Entry} (he : e ∈ (ofTree file root).entries) :
    e.Whole := by
  unfold ofTree at he
  split at he
  · exact absurd he List.not_mem_nil
  · obtain ⟨read, hread, hentry⟩ := List.mem_filterMap.mp he
    obtain ⟨node, hnode, rfl⟩ := List.mem_map.mp hread
    exact (whole_entryOf (h.of_mem_elements hnode)).1 e hentry

end Reading

end ResourceAudit
