import ResourceAudit.Proofs.CommandLine.Totals
import ResourceAudit.Proofs.Project.Reading
import ResourceAudit.Proofs.Resource.Quotation

/-!
# One diagnostic, one line

The command line prints every diagnostic as a line, but the texts that a diagnostic quotes may
have lines of their own. A JSON line escapes them. In the other formats the line of a diagnostic is
one line exactly if the part of its text is that is printed, and so always if no text of the
resources breaks a line (`reported_lines`). A value with a line break that is not among the allowed
ones prints as two lines (`value_breaks_line`).
-/

namespace ResourceAudit

open Text (OneLine oneLine_literal)

/-! ## Files that cannot be read -/

/-- What the message of a fault quotes of the document. -/
def Markup.Fault.quoted : Markup.Fault → List String
  | unreachableEntity name => [name]
  | _ => []

theorem Markup.Fault.oneLine_message {fault : Markup.Fault}
    (h : ∀ text ∈ fault.quoted, OneLine text) : OneLine fault.message := by
  unfold message
  cases fault with
  | unreachableEntity name =>
      have hname : OneLine (toString name) := h name List.mem_cons_self
      dsimp only
      rw [Text.oneLine_append, Text.oneLine_append]
      exact ⟨⟨oneLine_literal (by decide), hname⟩, oneLine_literal (by decide)⟩
  | _ => exact oneLine_literal (by decide)

/-- The line and the column of a fault are numbers. -/
theorem Markup.Fault.oneLine_messageAt {fault : Markup.Fault}
    (h : ∀ text ∈ fault.quoted, OneLine text) (position : Nat × Nat) :
    OneLine (fault.messageAt position) := by
  have hmessage : OneLine (toString fault.message) := fault.oneLine_message h
  unfold messageAt
  rw [Text.oneLine_append, Text.oneLine_append, Text.oneLine_append, Text.oneLine_append]
  exact ⟨⟨⟨⟨hmessage, oneLine_literal (by decide)⟩, Text.oneLine_toString _⟩,
    oneLine_literal (by decide)⟩, Text.oneLine_toString _⟩

theorem AccessError.oneLine_message (error : AccessError) : OneLine error.message := by
  cases error with
  | missing => exact oneLine_literal (by decide)
  | isDirectory => exact oneLine_literal (by decide)
  | notDirectory => exact oneLine_literal (by decide)

namespace Project

/-- The texts of the document in a file, as far as they can be quoted. -/
def documentTexts (platform : Platform) (t : FileTree) (p : Path) : List String :=
  match t.read p with
  | .error _ => []
  | .ok bytes =>
      match (Markup.Source.bytes bytes).parse platform.codecs with
      | .ok (.ok root) => root.words
      | .ok (.error fault) => fault.quoted
      | .error _ => []

/-- What reading a file leads to: a reason why it cannot be read, or the reading of a tree. -/
inductive ReadAs (platform : Platform) (t : FileTree) (p : Path) : Reading.Outcome → Prop
  | unreadable (reason : String)
      (h : (∀ text ∈ documentTexts platform t p, OneLine text) → OneLine reason) :
      ReadAs platform t p (.unreadable reason)
  | tree (root : Markup.Node) (h : documentTexts platform t p = root.words) :
      ReadAs platform t p (.read (Reading.ofTree p.text root))

variable {platform : Platform} {t : FileTree} {p : Path}

theorem documentTexts_of_parse {bytes : List UInt8} {document : Except Markup.Fault Markup.Node}
    (hread : t.read p = .ok bytes)
    (hparse : (Markup.Source.bytes bytes).parse platform.codecs = .ok document) :
    documentTexts platform t p = match document with
      | .ok root => root.words
      | .error fault => fault.quoted := by
  cases document <;> simp only [documentTexts, hread, hparse]

theorem readAs_of_readResource {outcome : Reading.Outcome}
    (h : readResource platform t p = .ok outcome) : ReadAs platform t p outcome := by
  unfold readResource at h
  cases hread : t.read p with
  | error error =>
      rw [hread] at h
      cases h
      exact .unreadable _ fun _ => error.oneLine_message
  | ok bytes =>
      rw [hread] at h
      obtain ⟨document, hparse, rfl⟩ := Attempt.map_eq_ok.mp h
      have htexts := documentTexts_of_parse hread hparse
      cases document with
      | ok root => exact .tree root htexts
      | error fault =>
          refine .unreadable _ fun hwhole => Markup.Fault.oneLine_messageAt ?_ _
          rw [htexts] at hwhole
          exact hwhole

/-- A file that is among those checked, and breaks no line if the sources break none. -/
structure Covers (platform : Platform) (t : FileTree) (files : List String) (sources : Prop)
    (p : Path) : Prop where
  mem : p.text ∈ files
  oneLine : sources → OneLine p.text
  texts : sources → ∀ text ∈ documentTexts platform t p, OneLine text

variable {files : List String} {sources : Prop} {events : List Event}
  {entries : Option (List Entry)}

/-- What reading a file reports quotes its document, and so do the entries that are read. -/
theorem told_of_arriveBy (h : arriveBy (readResource platform t) p = .ok (events, entries))
    (hp : Covers platform t files sources p) :
    (∀ d ∈ Event.diagnostics events, Check.Told files sources d) ∧
      ∀ es, entries = some es → sources → ∀ e ∈ es, e.Whole := by
  obtain ⟨outcome, hread, harrived⟩ := Attempt.bind_eq_ok.mp h
  cases readAs_of_readResource hread with
  | unreadable reason hreason =>
      cases harrived
      refine ⟨fun d hd => ⟨p.text, hp.mem, ?_⟩, nofun⟩
      refine Check.stems_of_mem_singleton hd fun hsources => ?_
      simp [Finding.Whole, Finding.quoted, hp.oneLine hsources, hreason (hp.texts hsources)]
  | tree root hroot =>
      have hwhole : sources → root.Whole := by
        intro hsources
        have htexts := hp.texts hsources
        rw [hroot] at htexts
        exact htexts
      cases harrived
      constructor
      · intro d hd
        rw [Event.diagnostics_append, Reading.diagnostics_progress, List.nil_append,
          Event.diagnostics_map_report] at hd
        exact ⟨p.text, hp.mem, (Reading.stems_of_ofTree hd).mono hwhole⟩
      · rintro es hes hsources e he
        cases hes
        exact Reading.whole_of_ofTree (hwhole hsources) he

theorem told_of_arriveSatelliteBy {met : Check.Arrival}
    (h : arriveSatelliteBy (readResource platform t) p = .ok met)
    (hp : Covers platform t files sources p) : met.Told files sources := by
  rw [arriveSatelliteBy_eq] at h
  obtain ⟨⟨events, entries⟩, harrived, rfl⟩ := Attempt.map_eq_ok.mp h
  obtain ⟨hevents, hentries⟩ := told_of_arriveBy harrived hp
  refine ⟨hevents, ?_, ?_, ?_⟩
  all_goals
    intro s hs
    obtain ⟨es, hes, rfl⟩ := Option.map_eq_some_iff.mp hs
  · exact hp.mem
  · exact hp.oneLine
  · exact hentries es hes

variable {policy : Policy} {base : Path} {satellites : List Path} {run : GroupRun}

/-- All that is reported about the files of a group quotes their documents. -/
theorem told_of_checkFiles (h : checkFiles platform t policy base satellites = .ok run)
    (hall : ∀ p ∈ base :: satellites, Covers platform t files sources p) :
    ∀ d ∈ Event.diagnostics run.events, Check.Told files sources d := by
  obtain ⟨hbase, hsatellites⟩ := List.forall_mem_cons.mp hall
  unfold checkFiles at h
  cases harrived : arriveBy (readResource platform t) base with
  | error failure =>
      rw [checkFilesBy_failed harrived] at h
      cases h
  | ok met =>
      obtain ⟨opening, entries⟩ := met
      obtain ⟨hopening, hentries⟩ := told_of_arriveBy harrived hbase
      cases entries with
      | none =>
          rw [checkFilesBy_unreadable harrived] at h
          cases h
          exact hopening
      | some entries =>
          rw [checkFilesBy_read harrived] at h
          obtain ⟨run, hrun, rfl⟩ := Attempt.map_eq_ok.mp h
          rw [Check.diagnostics_finish]
          refine Check.told_of_runGroup hrun hbase.mem hbase.oneLine (hentries entries rfl)
            hopening ?_
          intro met hmet
          obtain ⟨p, hp, hmet⟩ := List.mem_map.mp hmet
          exact told_of_arriveSatelliteBy hmet (hsatellites p hp)

/-- The files of all groups. -/
def Outcome.allFiles (o : Outcome) : List Path :=
  o.groups.flatMap fun c => c.group.files

theorem told_of_check {paths : List Path} {o : Outcome} (h : check platform t policy paths = .ok o)
    (hall : ∀ p ∈ o.allFiles, Covers platform t files sources p) :
    ∀ d ∈ Event.diagnostics o.events, Check.Told files sources d := by
  intro d hd
  rw [Outcome.diagnostics_events h] at hd
  obtain ⟨c, hc, hd⟩ := List.mem_flatMap.mp hd
  refine told_of_checkFiles (run_of_mem h hc) ?_ d hd
  intro p hp
  exact hall p (List.mem_flatMap.mpr ⟨c, hc, hp⟩)

end Project

/-! ## Reports -/

/-- The texts of a parameter. -/
def Parameter.texts (p : Parameter) : List String :=
  [p.type, p.name]

theorem Parameter.oneLine_of_texts {parameters : List Parameter}
    (h : ∀ text ∈ parameters.flatMap texts, OneLine text) :
    ∀ p ∈ parameters, OneLine p.type ∧ OneLine p.name := by
  intro p hp
  have htexts : ∀ text ∈ p.texts, OneLine text :=
    fun text htext => h text (List.mem_flatMap.mpr ⟨p, hp, htext⟩)
  exact ⟨htexts _ List.mem_cons_self, htexts _ (List.mem_cons_of_mem _ List.mem_cons_self)⟩

/-- The texts of what a mode declares. -/
def Mode.texts (mode : Mode) : List String :=
  mode.variants ++ mode.parameters.flatMap Parameter.texts

theorem Mode.whole_of_texts {mode : Mode} (h : ∀ text ∈ mode.texts, OneLine text) :
    mode.Whole :=
  ⟨fun v hv => h v (List.mem_append_left _ hv),
    Parameter.oneLine_of_texts fun text htext => h text (List.mem_append_right _ htext)⟩

namespace GroupInput

/-- The names of the base file and the satellites. -/
def files (g : GroupInput) : List String :=
  g.baseFile :: g.satellites.map Satellite.file

/-- The texts of all entries. -/
def texts (g : GroupInput) : List String :=
  (g.entries ++ g.satellites.flatMap Satellite.entries).flatMap Entry.texts

end GroupInput

/-- What is reported about some files with some texts, where `ReportOn files texts ds` stands for
one call: the reader is given a document, or specifiers are checked, or an entry, which is a
string or an include, or a satellite, a group, the files of a group or a project. -/
inductive ReportOn : List String → List String → List Diagnostic → Prop
  | document (file : String) (root : Markup.Node) :
      ReportOn [file] root.words (Reading.ofTree file root).result.diagnostics
  | specifiers (file : Option String) (name value : String) (parameters : List Parameter)
      (uses : List (Int × String)) (found : List Finding)
      (h : Check.specifiers name value parameters uses = .ok found) :
      ReportOn file.toList
        (name :: value :: (uses.map Prod.snd ++ parameters.flatMap Parameter.texts))
        (Check.reportAll file found)
  | stringEntry (policy : Policy) (file : Option String) (e : Entry)
      (out : Check.EntryOutcome) (h : Check.stringEntry policy file e = .ok out) :
      ReportOn file.toList e.texts out.diagnostics
  | includeEntry (file : Option String) (e : Entry) :
      ReportOn file.toList e.texts (Check.includeEntry file e).diagnostics
  | satellite (ref : Check.Reference) (s : Satellite) (ds : List Diagnostic)
      (h : Check.satellite ref s = .ok ds) :
      ReportOn [s.file, ref.baseFile]
        (s.entries.flatMap Entry.texts ++ ref.items.flatMap fun i => i.mode.texts) ds
  | group (g : GroupInput) (run : GroupRun)
      (h : Check.group g.policy g.baseFile g.entries g.satellites = .ok run) :
      ReportOn g.files g.texts (Event.diagnostics run.events)
  | files (platform : Platform) (t : FileTree) (policy : Policy) (base : Path)
      (satellites : List Path) (run : GroupRun)
      (h : Project.checkFiles platform t policy base satellites = .ok run) :
      ReportOn ((base :: satellites).map Path.text)
        ((base :: satellites).flatMap (Project.documentTexts platform t))
        (Event.diagnostics run.events)
  | project (platform : Platform) (t : FileTree) (policy : Policy) (paths : List Path)
      (o : Project.Outcome) (h : Project.check platform t policy paths = .ok o) :
      ReportOn (o.allFiles.map Path.text) (o.allFiles.flatMap (Project.documentTexts platform t))
        (Event.diagnostics o.events)

namespace ReportOn

variable {files texts : List String} {ds : List Diagnostic}

/-- Neither the names nor the texts of the files break a line. -/
def Whole (files texts : List String) : Prop :=
  (∀ file ∈ files, OneLine file) ∧ ∀ text ∈ texts, OneLine text

theorem told_of_group {g : GroupInput} {run : GroupRun}
    (h : Check.group g.policy g.baseFile g.entries g.satellites = .ok run) :
    ∀ d ∈ Event.diagnostics run.events, Check.Told g.files (Whole g.files g.texts) d := by
  obtain ⟨run, hrun, rfl⟩ := Attempt.map_eq_ok.mp h
  rw [Check.diagnostics_finish]
  have hentry : ∀ e ∈ g.entries ++ g.satellites.flatMap Satellite.entries,
      Whole g.files g.texts → e.Whole :=
    fun e he hwhole text htext => hwhole.2 text (List.mem_flatMap.mpr ⟨e, he, htext⟩)
  have hbase : Whole g.files g.texts → OneLine g.baseFile :=
    fun hwhole => hwhole.1 _ List.mem_cons_self
  have hnone : ∀ d ∈ Event.diagnostics [], Check.Told g.files (Whole g.files g.texts) d :=
    fun d hd => absurd hd List.not_mem_nil
  refine Check.told_of_runGroup hrun List.mem_cons_self hbase ?_ hnone ?_
  · intro hwhole e he
    exact hentry e (List.mem_append_left _ he) hwhole
  · intro met hmet
    obtain ⟨s, hs, hmet⟩ := List.mem_map.mp hmet
    cases hmet
    have hfile : s.file ∈ g.files := List.mem_cons_of_mem _ (List.mem_map_of_mem hs)
    refine ⟨hnone, ?_, ?_, ?_⟩
    all_goals rintro s' ⟨⟩
    · exact hfile
    · exact fun hwhole => hwhole.1 _ hfile
    · intro hwhole e he
      exact hentry e (List.mem_append_right _ (List.mem_flatMap.mpr ⟨s, hs, he⟩)) hwhole

theorem covers_of_mem {platform : Platform} {t : FileTree} {ps : List Path} {p : Path}
    (hp : p ∈ ps) :
    Project.Covers platform t (ps.map Path.text)
      (Whole (ps.map Path.text) (ps.flatMap (Project.documentTexts platform t))) p where
  mem := List.mem_map_of_mem hp
  oneLine hwhole := hwhole.1 _ (List.mem_map_of_mem hp)
  texts hwhole text htext := hwhole.2 text (List.mem_flatMap.mpr ⟨p, hp, htext⟩)

theorem stems_of_satellite {ref : Check.Reference} {s : Satellite}
    (h : Check.satellite ref s = .ok ds) :
    ∀ d ∈ ds, d.Stems (some s.file) (Whole [s.file, ref.baseFile]
      (s.entries.flatMap Entry.texts ++ ref.items.flatMap fun i => i.mode.texts)) := by
  intro d hd
  obtain ⟨e, he, hstems⟩ := Check.stems_of_satellite h hd
  refine hstems.mono fun ⟨hfiles, htexts⟩ => ?_
  obtain ⟨hentries, hitems⟩ := List.forall_mem_append.mp htexts
  constructor
  · exact fun text htext => hentries text (List.mem_flatMap.mpr ⟨e, he, htext⟩)
  · exact hfiles _ List.mem_cons_self
  · exact hfiles _ (List.mem_cons_of_mem _ List.mem_cons_self)
  · exact fun i hi => Mode.whole_of_texts fun text htext =>
      hitems text (List.mem_flatMap.mpr ⟨i, hi, htext⟩)

theorem stems_of_specifiers {file : Option String} {name value : String}
    {parameters : List Parameter} {uses : List (Int × String)} {found : List Finding}
    (h : Check.specifiers name value parameters uses = .ok found) :
    ∀ d ∈ Check.reportAll file found, d.Stems file (Whole file.toList
      (name :: value :: (uses.map Prod.snd ++ parameters.flatMap Parameter.texts))) := by
  intro d hd
  refine Check.stems_of_mem_reportAll hd fun ⟨_, htexts⟩ f hf => ?_
  obtain ⟨hname, htexts⟩ := List.forall_mem_cons.mp htexts
  obtain ⟨hvalue, htexts⟩ := List.forall_mem_cons.mp htexts
  obtain ⟨huses, hparameters⟩ := List.forall_mem_append.mp htexts
  exact Check.whole_of_mem_specifiers h hf hname hvalue (List.forall_mem_map.mp huses)
    (Parameter.oneLine_of_texts hparameters)

/-- Every report is about its files, if any, and quotes their texts. -/
theorem stems (h : ReportOn files texts ds) {d : Diagnostic} (hd : d ∈ ds) :
    ∃ file : Option String, (∀ name, file = some name → name ∈ files) ∧
      d.Stems file (Whole files texts) := by
  have hlisted (file : Option String) : ∀ name, file = some name → name ∈ file.toList := by
    rintro name rfl
    exact List.mem_cons_self
  -- A report on several files names the one that each diagnostic is about.
  have htold (h : Check.Told files (Whole files texts) d) :
      ∃ file : Option String, (∀ name, file = some name → name ∈ files) ∧
        d.Stems file (Whole files texts) := by
    obtain ⟨file, hfile, hstems⟩ := h
    exact ⟨some file, fun name hname => Option.some.inj hname ▸ hfile, hstems⟩
  cases h with
  | document file root =>
      exact ⟨some file, hlisted (some file), (Reading.stems_of_ofTree hd).mono And.right⟩
  | specifiers file name value parameters uses found hfound =>
      exact ⟨file, hlisted file, stems_of_specifiers hfound d hd⟩
  | stringEntry policy file e out hout =>
      exact ⟨file, hlisted file, (Check.stems_of_stringEntry hout hd).mono And.right⟩
  | includeEntry file e =>
      exact ⟨file, hlisted file, (Check.stems_of_includeEntry hd).mono And.right⟩
  | satellite ref s ds hds =>
      exact htold ⟨s.file, List.mem_cons_self, stems_of_satellite hds d hd⟩
  | group g run hrun => exact htold (told_of_group hrun d hd)
  | files platform t policy base satellites run hrun =>
      exact htold (Project.told_of_checkFiles hrun (fun p hp => covers_of_mem hp) d hd)
  | project platform t policy paths o ho =>
      exact htold (Project.told_of_check ho (fun p hp => covers_of_mem hp) d hd)

end ReportOn

/-- **A diagnostic prints as one line unless it quotes a line break.** Whatever is reported, by
the reader or by a check, about entries with any texts: every diagnostic is a finding, about one
of the files if any, and its text is on one line exactly if all that the finding quotes is. If no
file name breaks a line, the line of the diagnostic is one line in the JSON format, and in the
other two exactly if the part of the text is that remains within the limit. So where no text of
the resources breaks a line, every diagnostic prints as one line in every format. -/
theorem reported_lines {files texts : List String} {ds : List Diagnostic}
    (h : ReportOn files texts ds) (hfiles : ∀ file ∈ files, OneLine file) {d : Diagnostic}
    (hd : d ∈ ds) :
    ∃ f : Finding, d = f.diagnostic.reported d.severity d.file ∧
      (∀ name, d.file = some name → name ∈ files) ∧
      (OneLine d.text ↔ ∀ text ∈ f.quoted, OneLine text) ∧
      (∀ style : LineStyle,
        OneLine (style.line d) ↔ style.format = .json ∨ OneLine (style.clip d.text)) ∧
      ((∀ text ∈ texts, OneLine text) → ∀ style : LineStyle, OneLine (style.line d)) := by
  obtain ⟨file, hfile, f, ⟨severity, rfl⟩, hwhole⟩ := h.stems hd
  have htext : OneLine (f.diagnostic.reported severity file).text ↔ f.Whole :=
    f.oneLine_text_diagnostic
  have hline (style : LineStyle) :
      OneLine (style.line (f.diagnostic.reported severity file)) ↔
        style.format = .json ∨
          OneLine (style.clip (f.diagnostic.reported severity file).text) :=
    LineStyle.oneLine_line_iff fun name hname => hfiles name (hfile name hname)
  refine ⟨f, rfl, hfile, htext, hline, ?_⟩
  intro htexts style
  exact (hline style).mpr (Or.inr (LineStyle.oneLine_clip (htext.mpr (hwhole ⟨hfiles, htexts⟩))))

/-- What is reported about a group with a stray node, a missing satellite and a malformed one. -/
def greetingDiagnostics : List Diagnostic :=
  [(Finding.unexpectedNode "hi" "note").asWarning (some "a.resx"),
    (Finding.fileUnreadable "a.de.resx" "No such file or directory").asError (some "a.de.resx"),
    (Check.scanFinding "hi" ⟨.indexExpected, 1⟩).asError (some "a.fr.resx")]

theorem reported_lines_greeting :
    ∃ run, Project.checkFiles .bare Project.greetingTree .strict ⟨.current, ["a.resx"]⟩
        [⟨.current, ["a.de.resx"]⟩, ⟨.current, ["a.fr.resx"]⟩] = .ok run ∧
      Event.diagnostics run.events = greetingDiagnostics ∧
      ∀ d ∈ greetingDiagnostics, ∀ style : LineStyle, OneLine (style.line d) := by
  have hmap : (Project.checkFiles .bare Project.greetingTree .strict ⟨.current, ["a.resx"]⟩
      [⟨.current, ["a.de.resx"]⟩, ⟨.current, ["a.fr.resx"]⟩]).map
        (fun run => Event.diagnostics run.events) = .ok greetingDiagnostics := by
    decide +kernel
  obtain ⟨run, hrun, hds⟩ := Attempt.map_eq_ok.mp hmap
  refine ⟨run, hrun, hds, ?_⟩
  intro d hd
  obtain ⟨-, -, -, -, -, hone⟩ := reported_lines (.files _ _ _ _ _ run hrun) (by decide +kernel)
    (hds ▸ hd)
  exact hone (by decide +kernel)

/-! ## A value of two lines -/

/-- An enumeration whose value is of two lines and none of the allowed ones. -/
def twoLineEntry : Entry :=
  ⟨"a", "b\nc", some "!(d, e)", none⟩

def twoLineDiagnostic : Diagnostic :=
  (Finding.valueNotInVariants "a" "b\nc" "(d, e)").asError (some "S.resx")

def twoLineTree : FileTree where
  current := []
  files := [(["S.resx"], Project.ascii ("<root><data name=\"a\"><value>b\nc</value>" ++
    "<comment>!(d, e)</comment></data></root>"))]
  directories := []

/-- The value is quoted as it is, and the one diagnostic prints as two lines. -/
theorem value_breaks_line :
    ReportOn ["S.resx"] twoLineEntry.texts [twoLineDiagnostic] ∧ OneLine "S.resx" ∧
      ¬ OneLine (LineStyle.line ⟨.buildLog, none⟩ twoLineDiagnostic) ∧
      ¬ OneLine (LineStyle.line ⟨.simple, none⟩ twoLineDiagnostic) ∧
      CommandLine.run .bare twoLineTree ["S.resx"] = .ok (.finished 1
        ["S.resx(1,1): error RSX4001: a: provided value 'b\nc' is not in the list of allowed " ++
            "options: (d, e)",
          "resxlint completed with 1 errors and 0 warnings."]) :=
  ⟨.stringEntry .strict (some "S.resx") twoLineEntry ⟨none, [twoLineDiagnostic]⟩
      (by decide +kernel), by decide +kernel, by decide +kernel, by decide +kernel,
    by decide +kernel⟩

end ResourceAudit
