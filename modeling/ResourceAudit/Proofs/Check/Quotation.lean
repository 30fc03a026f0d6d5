import ResourceAudit.Proofs.Check.Group
import ResourceAudit.Proofs.Declaration.Printing
import ResourceAudit.Proofs.Diagnostic.Wording
import ResourceAudit.Proofs.Format.Recognition

/-!
# What checks quote

Every diagnostic of a check reports a finding about the file that is checked, and all that it
quotes was found in the entries: names, values, pieces of values and of comments, and the names
of the files. A parameter is an identifier and breaks no line anyway. So a diagnostic can break a
line only if an entry or a file name does (`stems_of_entry`, `stems_of_localizedEntry`).
-/

namespace ResourceAudit

open Text (OneLine oneLine_ofList oneLine_literal)

/-- A diagnostic that reports a finding for a file. If its sources break no line, neither does
what it quotes. -/
def Diagnostic.Stems (d : Diagnostic) (file : Option String) (sources : Prop) : Prop :=
  ∃ f : Finding, (∃ severity, d = f.diagnostic.reported severity file) ∧
    (sources → f.Whole)

theorem Diagnostic.Stems.mono {d : Diagnostic} {file : Option String} {sources sources' : Prop}
    (h : d.Stems file sources) (himp : sources' → sources) : d.Stems file sources' := by
  obtain ⟨f, hf, hwhole⟩ := h
  exact ⟨f, hf, fun hsources => hwhole (himp hsources)⟩

namespace Entry

/-- The texts of an entry that can be quoted. -/
def texts (e : Entry) : List String :=
  e.name :: e.value :: e.comment.toList

/-- Nothing in an entry breaks a line. -/
def Whole (e : Entry) : Prop :=
  ∀ text ∈ e.texts, OneLine text

variable {e : Entry}

theorem Whole.name (h : e.Whole) : OneLine e.name :=
  h _ List.mem_cons_self

theorem Whole.value (h : e.Whole) : OneLine e.value :=
  h _ (List.mem_cons_of_mem _ List.mem_cons_self)

theorem Whole.comment (h : e.Whole) {comment : String} (hcomment : e.comment = some comment) :
    OneLine comment := by
  apply h
  rw [texts, hcomment]
  exact List.mem_cons_of_mem _ (List.mem_cons_of_mem _ List.mem_cons_self)

end Entry

/-! ## Declared modes -/

/-- Nothing in a mode breaks a line. -/
structure Mode.Whole (mode : Mode) : Prop where
  variants : ∀ v ∈ mode.variants, OneLine v
  parameters : ∀ p ∈ mode.parameters, OneLine p.type ∧ OneLine p.name

theorem Text.isBlank_of_isBreak {c : Char} (h : isBreak c = true) : isBlank c = true := by
  rw [isBreak, Bool.or_eq_true, beq_iff_eq, beq_iff_eq] at h
  rcases h with rfl | rfl <;> decide

/-- Line breaks are blanks, and identifiers have none. -/
theorem Parameter.WellFormed.oneLine {p : Parameter} (h : p.WellFormed) :
    OneLine p.type ∧ OneLine p.name := by
  have hdeclaration : OneLine p.declaration := by
    intro c hc
    by_contra hbreak
    rw [Bool.not_eq_false] at hbreak
    rcases h.mem_declaration hc with hword | hmark
    · exact Bool.noConfusion
        ((Text.isBlank_of_isWord hword).symm.trans (Text.isBlank_of_isBreak hbreak))
    · have hall : ∀ c ∈ ['@', '.', '?', ' '], Text.isBreak c = false :=
        List.forall_iff_forall_mem.mp (by decide)
      exact Bool.noConfusion ((hall c hmark).symm.trans hbreak)
  rw [declaration, Text.oneLine_append, Text.oneLine_append] at hdeclaration
  exact ⟨hdeclaration.1.1, hdeclaration.2⟩

namespace Mode

theorem oneLine_describe {variants : List String} (h : ∀ v ∈ variants, OneLine v) :
    OneLine (describe variants) := by
  have hcomma : OneLine ", " := oneLine_literal (by decide)
  rw [describe, Text.oneLine_append, Text.oneLine_append, Text.oneLine_intercalate hcomma]
  exact ⟨⟨oneLine_literal (by decide), h⟩, oneLine_literal (by decide)⟩

theorem mem_of_mem_readVariants {list : List Char} {v : String} (hv : v ∈ readVariants list) :
    v.toList ⊆ list := by
  obtain ⟨cs, hcs, rfl⟩ := List.mem_map.mp hv
  obtain ⟨piece, hpiece, rfl⟩ := List.mem_map.mp (List.mem_filter.mp hcs).1
  rw [String.toList_ofList]
  exact fun c hc => (Text.mem_of_mem_piece hpiece (Text.mem_of_mem_trim hc)).1

theorem subset_of_dropBlank (comment : List Char) : Text.dropBlank comment ⊆ comment :=
  (List.dropWhile_suffix _).subset

/-- A mode is made of pieces of the comment. -/
theorem whole_of_read {comment : List Char} {mode : Mode} (h : read comment = .ok mode)
    (hcomment : ∀ c ∈ comment, Text.isBreak c = false) : mode.Whole := by
  have hsubset := subset_of_dropBlank comment
  cases opening (Text.dropBlank comment) with
  | dash hopen =>
      rw [read_dash hopen] at h
      cases h
      exact ⟨nofun, nofun⟩
  | @variantList list note hopen hlist =>
      rw [read_variantList hopen hlist] at h
      cases h
      refine ⟨fun v hv c hc => hcomment c (hsubset ?_), nofun⟩
      rw [hopen]
      simp [mem_of_mem_readVariants hv hc]
  | parameterList hopen hbody =>
      rw [read_parameterList hopen hbody] at h
      obtain ⟨ps, hps, rfl⟩ := Attempt.map_eq_ok.mp h
      exact ⟨nofun, fun p hp => ((wellFormed_of_readParameters hps).2 p hp).oneLine⟩
  | other hdash hvariants hparameters =>
      rw [read_other hdash hvariants hparameters] at h
      cases h
      exact ⟨nofun, nofun⟩

theorem exists_piece_of_readPieces {pieces : List (List Char)} {refusal : DeclarationError}
    (h : readPieces pieces = .error refusal) :
    ∃ piece ∈ pieces, refusal = .bad (String.ofList (Text.trim piece)) := by
  rcases declared_or_refused pieces with ⟨ps, hps⟩ | ⟨front, piece, back, rfl, hfront, hpiece⟩
  · rw [readPieces_eq_ok_iff.mpr hps] at h
    cases h
  · rw [readPieces_refused hfront hpiece] at h
    cases h
    exact ⟨piece, by simp, rfl⟩

/-- What is quoted of a comment that is refused is a part of it. -/
theorem whole_of_refusal {name : String} {comment : List Char} {refusal : DeclarationError}
    (h : read comment = .error refusal) (hname : OneLine name)
    (hcomment : ∀ c ∈ comment, Text.isBreak c = false) :
    (Check.declarationFinding name refusal).Whole := by
  have hsubset := subset_of_dropBlank comment
  cases opening (Text.dropBlank comment) with
  | dash hopen =>
      rw [read_dash hopen] at h
      cases h
  | variantList hopen hlist =>
      rw [read_variantList hopen hlist] at h
      cases h
  | @parameterList body note hopen hbody =>
      rw [read_parameterList hopen hbody] at h
      have hrefused := Attempt.map_eq_error.mp h
      by_cases hblank : Text.allBlank body = true
      · rw [readParameters_blank hblank] at hrefused
        cases hrefused
        have htrim : OneLine (String.ofList (Text.trim comment)) :=
          oneLine_ofList fun c hc => hcomment c (Text.mem_of_mem_trim hc)
        simp [Finding.Whole, Check.declarationFinding, Finding.quoted, hname, htrim]
      · rw [readParameters, if_neg hblank] at hrefused
        obtain ⟨piece, hpiece, rfl⟩ := exists_piece_of_readPieces hrefused
        have htrim : OneLine (String.ofList (Text.trim piece)) := by
          refine oneLine_ofList fun c hc => hcomment c (hsubset ?_)
          rw [hopen]
          simp [(Text.mem_of_mem_piece hpiece (Text.mem_of_mem_trim hc)).1]
        simp [Finding.Whole, Check.declarationFinding, Finding.quoted, hname, htrim]
  | other hdash hvariants hparameters =>
      rw [read_other hdash hvariants hparameters] at h
      cases h

end Mode

namespace Entry

variable {e : Entry}

theorem Whole.mode (h : e.Whole) {mode : Mode} (hmode : Mode.ofComment e.comment = .ok mode) :
    mode.Whole := by
  cases hcomment : e.comment with
  | none =>
      rw [hcomment] at hmode
      cases hmode
      exact ⟨nofun, nofun⟩
  | some comment =>
      rw [hcomment] at hmode
      exact Mode.whole_of_read hmode (h.comment hcomment)

theorem Whole.refusal (h : e.Whole) {refusal : DeclarationError}
    (hrefusal : Mode.ofComment e.comment = .error refusal) :
    (Check.declarationFinding e.name refusal).Whole := by
  cases hcomment : e.comment with
  | none =>
      rw [hcomment] at hrefusal
      cases hrefusal
  | some comment =>
      rw [hcomment] at hrefusal
      exact Mode.whole_of_refusal hrefusal h.name (h.comment hcomment)

end Entry

/-! ## Findings about values -/

/-- A specifier is a part of its value. -/
theorem Format.oneLine_of_use {value : String} (h : OneLine value) {index : Nat} {t : String}
    (huse : (index, t) ∈ (scan value).uses) : OneLine t := by
  obtain ⟨text, u, hu, rfl, hsublist⟩ := exists_item_of_use huse
  refine oneLine_ofList fun c hc => h c (hsublist.subset ?_)
  simp [Segment.text, ItemText.body, hu, specifierText, hc]

theorem Format.Problem.oneLine_message (p : Problem) : OneLine p.message := by
  unfold message
  cases p with
  | indexExpected | widthExpected =>
      dsimp only
      rw [Text.oneLine_append]
      exact ⟨oneLine_literal (by decide), Text.oneLine_toString numberBound⟩
  | braceInSpecifier | specifierNotClosed | specifierEmpty | itemNotClosed | strayBrace =>
      exact oneLine_literal (by decide)

namespace Check

variable {name value : String}

theorem whole_scanFinding (hname : OneLine name) (error : Format.ScanError) :
    (scanFinding name error).Whole := by
  simp [Finding.Whole, scanFinding, Finding.quoted, hname, error.problem.oneLine_message]

theorem whole_of_indexFinding? {scan : Format.Scan} {declared : Nat} {f : Finding}
    (h : indexFinding? name scan declared = some f) (hname : OneLine name) : f.Whole := by
  unfold indexFinding? at h
  split at h
  · cases h
    simp [Finding.Whole, Finding.quoted, hname]
  · split at h
    · obtain ⟨index, -, rfl⟩ := Option.map_eq_some_iff.mp h
      simp [Finding.Whole, Finding.quoted, hname]
    · obtain ⟨index, -, rfl⟩ := Option.map_eq_some_iff.mp h
      simp [Finding.Whole, Finding.quoted, hname]

theorem mem_of_bound? {parameters : List Parameter} {index : Int} {p : Parameter}
    (h : Parameter.bound? parameters index = .ok (some p)) : p ∈ parameters := by
  unfold Parameter.bound? at h
  split at h
  · exact List.mem_of_getElem? (Except.ok.inj h)
  · split at h
    · exact List.mem_of_getElem? (Except.ok.inj h)
    · cases h

/-- The specifiers of a value are parts of it. -/
theorem oneLine_of_signedUse (hvalue : OneLine value) {use : Int × String}
    (huse : use ∈ signedUses (Format.scan value)) : OneLine use.2 := by
  obtain ⟨⟨index, t⟩, hscanned, rfl⟩ := List.mem_map.mp huse
  exact Format.oneLine_of_use hvalue hscanned

theorem whole_of_mem_specifiers {parameters : List Parameter} {uses : List (Int × String)}
    {found : List Finding} {f : Finding} (h : specifiers name value parameters uses = .ok found)
    (hf : f ∈ found) (hname : OneLine name) (hvalue : OneLine value)
    (huses : ∀ use ∈ uses, OneLine use.2)
    (hparameters : ∀ p ∈ parameters, OneLine p.type ∧ OneLine p.name) : f.Whole := by
  obtain ⟨findings, hfindings, rfl⟩ := Attempt.map_eq_ok.mp h
  obtain ⟨finding, hmem, rfl⟩ := List.mem_filterMap.mp hf
  obtain ⟨⟨index, t⟩, huse, hjudged⟩ := Attempt.exists_of_mem_result hfindings hmem
  obtain ⟨bound, hbound, hjudged⟩ := Attempt.bind_eq_ok.mp hjudged
  have ht : OneLine t := huses _ huse
  cases bound with
  | none => cases hjudged
  | some p =>
      obtain ⟨htype, hparameter⟩ := hparameters p (mem_of_bound? hbound)
      obtain ⟨verdict, -, hfinding⟩ := Attempt.bind_eq_ok.mp hjudged
      have hsome := Except.ok.inj hfinding
      cases verdict with
      | valid => cases hsome
      | invalid =>
          cases hsome
          simp [Finding.Whole, Finding.quoted, hname, ht, htype, hparameter]
      | ineffective =>
          cases hsome
          simp [Finding.Whole, Finding.quoted, hname, ht, hvalue, hparameter]

/-! ## Base entries -/

section Base

variable {policy : Policy} {file : Option String} {e : Entry} {out : EntryOutcome} {d : Diagnostic}
  {sources : Prop} {f : Finding}

theorem stems_of_mem_singleton {severity : Severity}
    (hd : d ∈ [f.diagnostic.reported severity file]) (h : sources → f.Whole) :
    d.Stems file sources := by
  rw [List.mem_singleton.mp hd]
  exact ⟨f, ⟨severity, rfl⟩, h⟩

theorem stems_of_mem_reportAll {found : List Finding} (hd : d ∈ reportAll file found)
    (h : sources → ∀ f ∈ found, f.Whole) : d.Stems file sources := by
  obtain ⟨f, hf, rfl⟩ := List.mem_map.mp hd
  exact ⟨f, ⟨f.severity, rfl⟩, fun hsources => h hsources f hf⟩

theorem stems_of_plainEntry {scan : Format.Scan}
    (hd : d ∈ (plainEntry policy file e scan).diagnostics) : d.Stems file e.Whole := by
  by_cases hunused : scan.indexes = []
  · rw [plainEntry_unused hunused] at hd
    exact absurd hd List.not_mem_nil
  · rw [plainEntry_used hunused] at hd
    refine stems_of_mem_singleton hd fun he => ?_
    simp [Finding.Whole, Finding.quoted, he.name]

theorem stems_of_parameterizedEntry {parameters : List Parameter}
    (hmode : Mode.ofComment e.comment = .ok (.parameterized parameters))
    (h : parameterizedEntry file e (Format.scan e.value) parameters = .ok out)
    (hd : d ∈ out.diagnostics) : d.Stems file e.Whole := by
  cases hindex : indexFinding? e.name (Format.scan e.value) parameters.length with
  | some f =>
      rw [parameterizedEntry_found hindex] at h
      cases h
      exact stems_of_mem_singleton hd fun he => whole_of_indexFinding? hindex he.name
  | none =>
      rw [parameterizedEntry_exact hindex] at h
      obtain ⟨found, hfound, rfl⟩ := Attempt.map_eq_ok.mp h
      refine stems_of_mem_reportAll hd fun he f hf => ?_
      exact whole_of_mem_specifiers hfound hf he.name he.value
        (fun _ huse => oneLine_of_signedUse he.value huse) (he.mode hmode).parameters

theorem stems_of_formatEntry {declared : Option (List Parameter)}
    (hmode : ∀ parameters, declared = some parameters →
      Mode.ofComment e.comment = .ok (.parameterized parameters))
    (h : formatEntry policy file e declared = .ok out) (hd : d ∈ out.diagnostics) :
    d.Stems file e.Whole := by
  cases hscan : (Format.scan e.value).error with
  | some error =>
      rw [formatEntry_malformed hscan] at h
      cases h
      exact stems_of_mem_singleton hd fun he => whole_scanFinding he.name error
  | none =>
      cases declared with
      | none =>
          rw [formatEntry_none hscan] at h
          cases h
          exact stems_of_plainEntry hd
      | some parameters =>
          rw [formatEntry_some hscan] at h
          exact stems_of_parameterizedEntry (hmode parameters rfl) h hd

theorem stems_of_stringEntry (h : stringEntry policy file e = .ok out)
    (hd : d ∈ out.diagnostics) : d.Stems file e.Whole := by
  unfold stringEntry at h
  cases hmode : Mode.ofComment e.comment with
  | error refusal =>
      rw [hmode] at h
      cases h
      exact stems_of_mem_singleton hd fun he => he.refusal hmode
  | ok mode =>
      rw [hmode] at h
      cases mode with
      | suppressed =>
          cases h
          exact absurd hd List.not_mem_nil
      | enumeration variants =>
          dsimp only at h
          split at h
          · cases h
            exact absurd hd List.not_mem_nil
          · cases h
            refine stems_of_mem_singleton hd fun he => ?_
            have hallowed : OneLine (Mode.describe variants) :=
              Mode.oneLine_describe (he.mode hmode).variants
            simp [Finding.Whole, Finding.quoted, he.name, he.value, hallowed]
      | plain =>
          refine stems_of_formatEntry ?_ h hd
          intro parameters hnone
          cases hnone
      | parameterized parameters =>
          refine stems_of_formatEntry ?_ h hd
          intro declared hsome
          cases hsome
          exact hmode

theorem stems_of_includeEntry (hd : d ∈ (includeEntry file e).diagnostics) :
    d.Stems file e.Whole := by
  unfold includeEntry at hd
  split at hd
  · refine stems_of_mem_singleton hd fun he => ?_
    simp [Finding.Whole, Finding.quoted, he.name]
  · exact absurd hd List.not_mem_nil

/-- What is reported about a base entry quotes the entry. -/
theorem stems_of_entry (h : entry policy file e = .ok out) (hd : d ∈ out.diagnostics) :
    d.Stems file e.Whole := by
  unfold entry at h
  split at h
  · cases h
    exact stems_of_includeEntry hd
  · exact stems_of_stringEntry h hd

theorem stems_of_baseEntry {name : String} {m : Entry × Bool} {c : Contribution}
    (h : baseEntry policy name m = .ok c) (hd : d ∈ Event.diagnostics c.events) :
    d.Stems (some name) m.1.Whole := by
  obtain ⟨e, repeated⟩ := m
  cases repeated with
  | true =>
      cases h
      refine stems_of_mem_singleton hd fun he => ?_
      simp [Finding.Whole, Finding.quoted, he.name]
  | false =>
      rw [baseEntry_unmarked] at h
      obtain ⟨out, hout, rfl⟩ := Attempt.map_eq_ok.mp h
      rw [diagnostics_contributionOf] at hd
      exact stems_of_entry hout hd

/-- The mode of an item was declared by its entry. -/
theorem whole_mode_of_entry {i : Item} (h : entry policy file e = .ok out)
    (hitem : out.item = some i) (he : e.Whole) : i.mode.Whole := by
  rcases item_of_entry h hitem with ⟨-, inclusion, -, rfl⟩ | ⟨-, hadmitted⟩
  · exact ⟨nofun, nofun⟩
  · cases hadmitted with
    | suppressed hmode => exact he.mode hmode
    | enumeration variants hmode _ => exact he.mode hmode
    | plain hmode _ _ => exact he.mode hmode
    | parameterized parameters hmode _ => exact he.mode hmode

end Base

/-! ## Satellite entries -/

/-- Nothing that can be quoted about a satellite entry breaks a line. -/
structure LocalizedWhole (ref : Reference) (file : String) (e : Entry) : Prop where
  entry : e.Whole
  file : OneLine file
  baseFile : OneLine ref.baseFile
  items : ∀ i ∈ ref.items, i.mode.Whole

section Localized

variable {ref : Reference} {file : String} {e : Entry} {item : Item} {ds : List Diagnostic}
  {d : Diagnostic}

theorem stems_of_localizedFormat (hitem : item ∈ ref.items)
    (h : localizedFormat ref file e item = .ok ds) (hd : d ∈ ds) :
    d.Stems (some file) (LocalizedWhole ref file e) := by
  cases hscan : (Format.scan e.value).error with
  | some error =>
      rw [localizedFormat_malformed hscan] at h
      cases h
      exact stems_of_mem_singleton hd fun hwhole => whole_scanFinding hwhole.entry.name error
  | none =>
      rw [localizedFormat_scanned hscan] at h
      obtain ⟨found, hfound, rfl⟩ := Attempt.map_eq_ok.mp h
      rcases List.mem_append.mp hd with hd | hd
      · split at hd
        · exact absurd hd List.not_mem_nil
        · refine stems_of_mem_singleton hd fun hwhole => ?_
          simp [Finding.Whole, Finding.quoted, hwhole.entry.name, hwhole.file, hwhole.baseFile]
      · refine stems_of_mem_reportAll hd fun hwhole f hf => ?_
        exact whole_of_mem_specifiers hfound hf hwhole.entry.name hwhole.entry.value
          (fun _ huse => oneLine_of_signedUse hwhole.entry.value huse)
          (hwhole.items item hitem).parameters

theorem stems_of_localizedValue (hitem : item ∈ ref.items)
    (h : localizedValue ref file e item = .ok ds) (hd : d ∈ ds) :
    d.Stems (some file) (LocalizedWhole ref file e) := by
  unfold localizedValue at h
  split at h
  · cases h
    exact absurd hd List.not_mem_nil
  · rename_i variants hmode
    cases h
    split at hd
    · exact absurd hd List.not_mem_nil
    · refine stems_of_mem_singleton hd fun hwhole => ?_
      have hvariants := (hwhole.items item hitem).variants
      rw [hmode] at hvariants
      have hallowed : OneLine (Mode.describe variants) := Mode.oneLine_describe hvariants
      simp [Finding.Whole, Finding.quoted, hwhole.entry.name, hwhole.entry.value, hwhole.file,
        hwhole.baseFile, hallowed]
  · exact stems_of_localizedFormat hitem h hd
  · exact stems_of_localizedFormat hitem h hd

theorem stems_of_localizedItem (hitem : item ∈ ref.items)
    (h : localizedItem ref file e item = .ok ds) (hd : d ∈ ds) :
    d.Stems (some file) (LocalizedWhole ref file e) := by
  unfold localizedItem at h
  split at h
  · cases h
    refine stems_of_mem_singleton hd fun hwhole => ?_
    simp [Finding.Whole, Finding.quoted, hwhole.entry.name]
  · split at h
    · cases h
      refine stems_of_mem_singleton hd fun hwhole => ?_
      simp [Finding.Whole, Finding.quoted, hwhole.entry.name, hwhole.file, hwhole.baseFile]
    · split at h
      · cases h
        exact absurd hd List.not_mem_nil
      · exact stems_of_localizedValue hitem h hd

theorem mem_of_find? {name : String} {items : List Item}
    (h : Item.find? name items = some item) : item ∈ items :=
  List.mem_reverse.mp (List.mem_of_find?_eq_some h)

/-- What is reported about a satellite entry quotes the entry, the two files, and the variants
that its item declares. -/
theorem stems_of_localizedEntry (h : localizedEntry ref file e = .ok ds) (hd : d ∈ ds) :
    d.Stems (some file) (LocalizedWhole ref file e) := by
  unfold localizedEntry at h
  split at h
  · cases h
    refine stems_of_mem_singleton hd fun hwhole => ?_
    simp [Finding.Whole, Finding.quoted, hwhole.entry.name, hwhole.file, hwhole.baseFile]
  · rename_i item hfind
    exact stems_of_localizedItem (mem_of_find? hfind) h hd

theorem stems_of_satellite {s : Satellite} (h : satellite ref s = .ok ds) (hd : d ∈ ds) :
    ∃ e ∈ s.entries, d.Stems (some s.file) (LocalizedWhole ref s.file e) := by
  obtain ⟨dss, hdss, rfl⟩ := Attempt.map_eq_ok.mp h
  obtain ⟨es, hes, hd⟩ := List.mem_flatten.mp hd
  obtain ⟨e, he, hentry⟩ := Attempt.exists_of_mem_result hdss hes
  exact ⟨e, he, stems_of_localizedEntry hentry hd⟩

theorem stems_of_satelliteEntries {s : Satellite} (h : satelliteEntries ref s = .ok ds)
    (hd : d ∈ ds) : ∃ e ∈ s.entries, d.Stems (some s.file) (LocalizedWhole ref s.file e) := by
  obtain ⟨dss, hdss, rfl⟩ := Attempt.map_eq_ok.mp h
  obtain ⟨es, hes, hd⟩ := List.mem_flatten.mp hd
  obtain ⟨⟨e, repeated⟩, hm, hentry⟩ := Attempt.exists_of_mem_result hdss hes
  refine ⟨e, Entry.mem_of_mem_markRepeats hm, ?_⟩
  cases repeated with
  | true =>
      cases hentry
      refine stems_of_mem_singleton hd fun hwhole => ?_
      simp [Finding.Whole, Finding.quoted, hwhole.entry.name]
  | false => exact stems_of_localizedEntry hentry hd

end Localized

/-! ## Group runs -/

/-- A diagnostic stems from one of some files. -/
def Told (files : List String) (sources : Prop) (d : Diagnostic) : Prop :=
  ∃ file ∈ files, d.Stems (some file) sources

/-- A satellite as it was met, with what was reported about it before. -/
structure Arrival.Told (files : List String) (sources : Prop) (met : Arrival) : Prop where
  events : ∀ d ∈ Event.diagnostics met.events, Check.Told files sources d
  file : ∀ s, met.satellite = some s → s.file ∈ files
  oneLine : ∀ s, met.satellite = some s → sources → OneLine s.file
  entries : ∀ s, met.satellite = some s → sources → ∀ e ∈ s.entries, e.Whole

section Run

variable {policy : Policy} {baseFile : String} {opening : List Event} {entries : List Entry}
  {arrivals : List (Except Failure Arrival)} {run : GroupRun} {files : List String}
  {sources : Prop}

theorem told_of_arrival {ref : Reference} {obtained : Except Failure Arrival} {es : List Event}
    (h : arrival ref obtained = .ok es)
    (hmet : ∀ met, obtained = .ok met → met.Told files sources)
    (hbase : sources → OneLine ref.baseFile) (hitems : sources → ∀ i ∈ ref.items, i.mode.Whole) :
    ∀ d ∈ Event.diagnostics es, Told files sources d := by
  intro d hd
  obtain ⟨met, hobtained, h⟩ := Attempt.bind_eq_ok.mp h
  have htold := hmet met hobtained
  split at h
  · cases h
    exact htold.events d hd
  · rename_i s hs
    obtain ⟨ds, hds, h⟩ := Attempt.bind_eq_ok.mp h
    cases h
    rw [Event.diagnostics_append, Event.diagnostics_map_report, List.mem_append] at hd
    rcases hd with hd | hd
    · exact htold.events d hd
    · obtain ⟨e, he, hstems⟩ := stems_of_satelliteEntries hds hd
      exact ⟨s.file, htold.file s hs, hstems.mono fun hsources =>
        ⟨htold.entries s hs hsources e he, htold.oneLine s hs hsources, hbase hsources,
          hitems hsources⟩⟩

theorem told_of_baseEvents {cs : List Contribution}
    (h : baseEntries policy baseFile entries = .ok cs) (hbase : baseFile ∈ files)
    (hentries : sources → ∀ e ∈ entries, e.Whole)
    (hopening : ∀ d ∈ Event.diagnostics opening, Told files sources d) :
    ∀ d ∈ Event.diagnostics (baseEvents opening cs), Told files sources d := by
  intro d hd
  unfold baseEvents at hd
  rw [Event.diagnostics_append, List.mem_append, Event.diagnostics_flatten] at hd
  rcases hd with hd | hd
  · exact hopening d hd
  · obtain ⟨ds, hds, hd⟩ := List.mem_flatten.mp hd
    obtain ⟨es, hes, rfl⟩ := List.mem_map.mp hds
    obtain ⟨c, hc, rfl⟩ := List.mem_map.mp hes
    obtain ⟨m, hm, hcontribution⟩ := Attempt.exists_of_mem_result h hc
    exact ⟨baseFile, hbase, (stems_of_baseEntry hcontribution hd).mono fun hsources =>
      hentries hsources m.1 (Entry.mem_of_mem_markRepeats hm)⟩

/-- All that a group run reports stems from its files. -/
theorem told_of_runGroup (h : runGroup policy baseFile opening entries arrivals = .ok run)
    (hbase : baseFile ∈ files) (hname : sources → OneLine baseFile)
    (hentries : sources → ∀ e ∈ entries, e.Whole)
    (hopening : ∀ d ∈ Event.diagnostics opening, Told files sources d)
    (harrivals : ∀ met, .ok met ∈ arrivals → met.Told files sources) :
    ∀ d ∈ Event.diagnostics run.events, Told files sources d := by
  cases hcs : baseEntries policy baseFile entries with
  | error failure =>
      rw [runGroup_failed hcs] at h
      cases h
  | ok cs =>
      have hevents := told_of_baseEvents hcs hbase hentries hopening
      cases herror : Event.hasError (baseEvents opening cs) with
      | true =>
          rw [runGroup_skipped hcs herror] at h
          cases h
          rw [diagnostics_skippedRun]
          exact hevents
      | false =>
          rw [runGroup_verified hcs herror] at h
          obtain ⟨verified, hverified, rfl⟩ := Attempt.map_eq_ok.mp h
          intro d hd
          unfold verifiedRun at hd
          rw [Event.diagnostics_append, List.mem_append, Event.diagnostics_flatten] at hd
          rcases hd with hd | hd
          · exact hevents d hd
          · obtain ⟨ds, hds, hd⟩ := List.mem_flatten.mp hd
            obtain ⟨es, hes, rfl⟩ := List.mem_map.mp hds
            obtain ⟨obtained, hobtained, harrival⟩ := Attempt.exists_of_mem_result hverified hes
            refine told_of_arrival harrival ?_ hname ?_ d hd
            · rintro met rfl
              exact harrivals met hobtained
            · intro hsources i hi
              obtain ⟨e, he, out, hout, hitem⟩ := exists_entry_of_item hcs hi
              exact whole_mode_of_entry hout hitem (hentries hsources e he)

end Run

end Check

end ResourceAudit
