import Mathlib.Data.Set.Basic
import ResourceAudit.Proofs.Check.Agreement
import ResourceAudit.Proofs.Check.Yield
import ResourceAudit.Proofs.Format.Recognition

/-!
# Values without declared parameters

Under the lenient policy a value with placeholders may go without a declaration. The indexes of
the base value are then what a localized value is asked for, and nothing else is: no specifier has
a type to be checked against. So two values are consistent if and only if they use the same set of
indexes, and which of them is the base does not matter.
-/

namespace ResourceAudit

namespace Format

/-- The indexes of the items that a value consists of. -/
def usedIndexes (value : String) : Set ℕ :=
  {index | ∃ segments text, render segments = value.toList ∧ Segment.item text ∈ segments ∧
    text.index.value = index}

variable {v w : String} {index : ℕ}

theorem mem_map_index_items {segments : List Segment} :
    index ∈ (items segments).map Item.index ↔
      ∃ text, Segment.item text ∈ segments ∧ text.index.value = index := by
  rw [List.mem_map]
  constructor
  · rintro ⟨item, hitem, rfl⟩
    obtain ⟨segment, hsegment, hsome⟩ := List.mem_filterMap.mp hitem
    cases segment with
    | item text =>
        cases hsome
        exact ⟨text, hsegment, rfl⟩
    | literal | openBraces | closeBraces => cases hsome
  · rintro ⟨text, htext, rfl⟩
    exact ⟨text.item, List.mem_filterMap.mpr ⟨_, htext, rfl⟩, rfl⟩

theorem mem_usedIndexes (h : (scan v).error = none) :
    index ∈ usedIndexes v ↔ index ∈ (scan v).indexes := by
  rw [Scan.mem_indexes]
  constructor
  · rintro ⟨segments, text, hreading, htext, hindex⟩
    rw [scan_items_of_render hreading]
    exact mem_map_index_items.mpr ⟨text, htext, hindex⟩
  · intro hmem
    obtain ⟨segments, hreading⟩ := (scan_error_eq_none_iff v).mp h
    rw [scan_items_of_render hreading] at hmem
    obtain ⟨text, htext, hindex⟩ := mem_map_index_items.mp hmem
    exact ⟨segments, text, hreading, htext, hindex⟩

/-- Two values use the same indexes if the ascending lists of them are equal. -/
theorem usedIndexes_eq_iff (hv : (scan v).error = none) (hw : (scan w).error = none) :
    usedIndexes v = usedIndexes w ↔ (scan v).indexes = (scan w).indexes := by
  constructor
  · intro h
    apply (scan v).pairwise_indexes.eq_of_mem_iff (scan w).pairwise_indexes
    intro index
    rw [← mem_usedIndexes hv, ← mem_usedIndexes hw, h]
  · intro h
    ext index
    rw [mem_usedIndexes hv, mem_usedIndexes hw, h]

end Format

namespace Check

open Format (usedIndexes)

/-- A resource whose comment declares nothing, in a base file and in a localized one. -/
structure Undeclared where
  name : String
  comment : Option String
  plain : Mode.ofComment comment = .ok .plain
  /-- The comment of the localized entry. -/
  note : Option String
  baseFile : String
  file : String

namespace Undeclared

variable (u : Undeclared)

/-- What is reported about one value that localizes another under the lenient policy. -/
def verify (base localized : String) : Except Failure (List Diagnostic) := do
  let outcome ← entry .lenient (some u.baseFile) ⟨u.name, base, u.comment, none⟩
  satellite ⟨.lenient, u.baseFile, outcome.item.toList⟩
    ⟨u.file, [⟨u.name, localized, u.note, none⟩]⟩

/-- Nothing is reported about a value that localizes another one. -/
def Consistent (base localized : String) : Prop :=
  u.verify base localized = .ok []

/-- A verification reports a difference between the indexes as a warning, and nothing else. -/
structure ComparesIndexes (base localized : String) : Prop where
  same : usedIndexes base = usedIndexes localized → u.verify base localized = .ok []
  different : usedIndexes base ≠ usedIndexes localized →
    ∃ warning, u.verify base localized = .ok [warning] ∧
      warning.code = .satellitePlaceholderMismatch ∧ warning.severity = .warning ∧
      warning.file = some u.file

variable {u} {b t v : String}

/-- Under the lenient policy a well-formed value always yields an item. -/
theorem exists_item (hb : (Format.scan b).error = none) :
    ∃ ds, entry .lenient (some u.baseFile) ⟨u.name, b, u.comment, none⟩ =
      .ok ⟨some (plainItem ⟨u.name, b, u.comment, none⟩ (Format.scan b)), ds⟩ := by
  have hscan : (Format.scan (Entry.mk u.name b u.comment none).value).error = none := hb
  show ∃ ds, stringEntry .lenient (some u.baseFile) _ = _
  unfold stringEntry
  dsimp only
  rw [u.plain]
  dsimp only
  rw [formatEntry_none hscan]
  by_cases hunused : (Format.scan b).indexes = []
  · rw [plainEntry_unused hunused]
    exact ⟨_, rfl⟩
  · rw [plainEntry_used hunused]
    exact ⟨_, rfl⟩

/-- The one thing that may be reported. -/
def warning (u : Undeclared) (base localized : String) : Diagnostic :=
  (Finding.satellitePlaceholderMismatch u.name u.baseFile u.file
    (Format.scan base).indexes.length (Format.scan localized).indexes).gated .lenient (some u.file)

theorem verify_eq (hb : (Format.scan b).error = none) (ht : (Format.scan t).error = none) :
    u.verify b t =
      .ok (if (Format.scan t).usesExactly (Format.scan b).indexes then []
        else [u.warning b t]) := by
  obtain ⟨ds, hentry⟩ := exists_item (u := u) hb
  have hscan : (Format.scan (Entry.mk u.name t u.note none).value).error = none := ht
  refine Attempt.bind_eq_ok.mpr ⟨_, hentry, ?_⟩
  dsimp only [Option.toList_some]
  rw [satellite_singleton .lenient u.baseFile u.file ⟨u.name, t, u.note, none⟩ rfl rfl rfl]
  show localizedFormat _ u.file _ _ = _
  -- Without parameters no specifier is looked at, so the comparison of indexes is all that is left.
  rw [localizedFormat_scanned hscan, Item.parameters_of_plain rfl, specifiers_nil]
  exact congrArg Except.ok (List.append_nil _)

theorem comparesIndexes (hb : (Format.scan b).error = none) (ht : (Format.scan t).error = none) :
    u.ComparesIndexes b t := by
  have hexact : (Format.scan t).usesExactly (Format.scan b).indexes = true ↔
      usedIndexes b = usedIndexes t := by
    rw [Format.usedIndexes_eq_iff hb ht]
    exact beq_iff_eq.trans eq_comm
  refine ⟨?_, ?_⟩
  · intro h
    rw [verify_eq hb ht, if_pos (hexact.mpr h)]
  · intro h
    refine ⟨u.warning b t, ?_, rfl, rfl, rfl⟩
    rw [verify_eq hb ht, if_neg (mt hexact.mp h)]

theorem consistent_iff (hb : (Format.scan b).error = none) (ht : (Format.scan t).error = none) :
    u.Consistent b t ↔ usedIndexes b = usedIndexes t := by
  have hcompared := comparesIndexes (u := u) hb ht
  constructor
  · intro h
    by_contra hne
    obtain ⟨warning, hwarning, -⟩ := hcompared.different hne
    cases h.symm.trans hwarning
  · exact hcompared.same

end Undeclared

/-- **Without a declaration only the set of indexes counts.** Let two values be well-formed. If one
localizes the other under the lenient policy, a mismatch is reported as a warning if and only if
their sets of indexes differ, and nothing else is reported. So the values may be exchanged, and
values that are consistent with a common base are consistent with each other. -/
theorem only_indexes_count (u : Undeclared) {b t : String} (hb : (Format.scan b).error = none)
    (ht : (Format.scan t).error = none) :
    u.ComparesIndexes b t ∧ (u.Consistent b t ↔ u.Consistent t b) ∧
      ∀ v, (Format.scan v).error = none → u.Consistent b t → u.Consistent b v →
        u.Consistent t v := by
  refine ⟨Undeclared.comparesIndexes hb ht, ?_, ?_⟩
  · rw [Undeclared.consistent_iff hb ht, Undeclared.consistent_iff ht hb]
    exact eq_comm
  · intro v hv hfirst hsecond
    rw [Undeclared.consistent_iff hb ht] at hfirst
    rw [Undeclared.consistent_iff hb hv] at hsecond
    rw [Undeclared.consistent_iff ht hv]
    exact hfirst.symm.trans hsecond

/-- A remark is no declaration. -/
def remarked : Undeclared where
  name := "range"
  comment := some "shown below the list"
  plain := by decide +kernel
  note := none
  baseFile := "Strings.resx"
  file := "Strings.de.resx"

/-- Another order, an alignment, escaped braces and specifiers, of which one is valid for no type,
make no difference. Another index does. -/
theorem only_indexes_count_remarked :
    remarked.Consistent "{3:X} and {1}" "{{{1,-5:N2}}}, {3:k} {1}" ∧
      remarked.Consistent "{{{1,-5:N2}}}, {3:k} {1}" "{3:X} and {1}" ∧
      remarked.Consistent "{{{1,-5:N2}}}, {3:k} {1}" "{1}{3}" ∧
      ¬ remarked.Consistent "x {1} y" "x {0} y" := by
  have hbase : (Format.scan "{3:X} and {1}").error = none := by decide +kernel
  have hother : (Format.scan "{{{1,-5:N2}}}, {3:k} {1}").error = none := by decide +kernel
  have hbare : (Format.scan "{1}{3}").error = none := by decide +kernel
  have hone : (Format.scan "x {1} y").error = none := by decide +kernel
  have hzero : (Format.scan "x {0} y").error = none := by decide +kernel
  obtain ⟨hfirst, hexchanged, hcommon⟩ := only_indexes_count remarked hbase hother
  obtain ⟨hsecond, -, -⟩ := only_indexes_count remarked hbase hbare
  obtain ⟨hrenumbered, -, -⟩ := only_indexes_count remarked hone hzero
  have hconsistent := hfirst.same ((Format.usedIndexes_eq_iff hbase hother).mpr (by decide +kernel))
  have hbared := hsecond.same ((Format.usedIndexes_eq_iff hbase hbare).mpr (by decide +kernel))
  refine ⟨hconsistent, hexchanged.mp hconsistent, hcommon _ hbare hconsistent hbared, ?_⟩
  intro h
  have hne : usedIndexes "x {1} y" ≠ usedIndexes "x {0} y" :=
    (Format.usedIndexes_eq_iff hone hzero).not.mpr (by decide +kernel)
  obtain ⟨warning, hwarning, -⟩ := hrenumbered.different hne
  cases h.symm.trans hwarning

end Check

end ResourceAudit
