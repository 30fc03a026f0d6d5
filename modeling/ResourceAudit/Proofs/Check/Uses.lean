import ResourceAudit.Proofs.Check.Declared
import ResourceAudit.Proofs.Check.Indexes
import ResourceAudit.Proofs.Check.Yield
import ResourceAudit.Proofs.Format.Recognition

/-!
# What is found about specifiers

A value with declared parameters is checked use by use, in the order in which the uses first
appear in it, and an invalid specifier does not end the check. `Follows` says which diagnostics
belong to a list of uses. Once the indexes of a value are those of its parameters, and unless the
judgement of a specifier fails, these diagnostics are all that is reported
(`findings_follow_value`).
-/

namespace ResourceAudit.Check

/-- The verdict on a use of a specifier, for the parameter that its index binds. -/
def Judged (ps : List Parameter) (use : Nat × String) (verdict : Verdict) : Prop :=
  ∃ p, ps[use.1]? = some p ∧ Verdict.of p.type use.2 = .ok verdict

/-- The diagnostics about uses of specifiers in a value: one for each use that is not valid, in
the order of the uses. -/
inductive Follows (file : Option String) (name value : String) (ps : List Parameter) :
    List (Nat × String) → List Diagnostic → Prop
  | nil : Follows file name value ps [] []
  | valid {i : Nat} {t : String} {p : Parameter} {us : List (Nat × String)}
      {ds : List Diagnostic} (hbound : ps[i]? = some p)
      (hverdict : Verdict.of p.type t = .ok .valid) (hrest : Follows file name value ps us ds) :
      Follows file name value ps ((i, t) :: us) ds
  | invalid {i : Nat} {t : String} {p : Parameter} {us : List (Nat × String)}
      {ds : List Diagnostic} (hbound : ps[i]? = some p)
      (hverdict : Verdict.of p.type t = .ok .invalid)
      (hrest : Follows file name value ps us ds) :
      Follows file name value ps ((i, t) :: us)
        ((Finding.invalidFormatSpecifier name t p.name p.type).asError file :: ds)
  | ineffective {i : Nat} {t : String} {p : Parameter} {us : List (Nat × String)}
      {ds : List Diagnostic} (hbound : ps[i]? = some p)
      (hverdict : Verdict.of p.type t = .ok .ineffective)
      (hrest : Follows file name value ps us ds) :
      Follows file name value ps ((i, t) :: us)
        ((Finding.specifierOnText name t p.name value).asWarning file :: ds)

variable {file : Option String} {name value : String} {ps : List Parameter}
  {us : List (Nat × String)} {ds : List Diagnostic}

theorem Judged.unique {use : Nat × String} {v w : Verdict} (hv : Judged ps use v)
    (hw : Judged ps use w) : v = w := by
  obtain ⟨p, hp, hv⟩ := hv
  obtain ⟨q, hq, hw⟩ := hw
  obtain rfl : p = q := Option.some.inj (hp.symm.trans hq)
  exact Except.ok.inj (hv.symm.trans hw)

theorem judged_of_bound {i : Nat} {t : String} {p : Parameter} {verdict : Verdict}
    (hbound : ps[i]? = some p) (hverdict : Verdict.of p.type t = .ok verdict) :
    Judged ps (i, t) verdict :=
  ⟨p, hbound, hverdict⟩

/-- An invalid use makes the only errors among the diagnostics. -/
theorem Follows.isClean_iff (h : Follows file name value ps us ds) :
    isClean ds = true ↔ ∀ use ∈ us, ¬ Judged ps use .invalid := by
  induction h with
  | nil => exact ⟨fun _ => nofun, fun _ => rfl⟩
  | valid hbound hverdict _ ih =>
      have hjudged := judged_of_bound hbound hverdict
      rw [ih, List.forall_mem_cons]
      exact (and_iff_right fun hinvalid => nomatch hjudged.unique hinvalid).symm
  | invalid hbound hverdict _ _ =>
      constructor
      · intro hclean
        cases hclean
      · intro hnone
        exact absurd (judged_of_bound hbound hverdict) (hnone _ List.mem_cons_self)
  | ineffective hbound hverdict _ ih =>
      have hjudged := judged_of_bound hbound hverdict
      rw [List.forall_mem_cons, ← ih]
      exact (and_iff_right fun hinvalid => nomatch hjudged.unique hinvalid).symm

/-! ## The check of uses -/

theorem specifiers_cons {use : Int × String} {uses : List (Int × String)}
    {finding : Option Finding} {found : List Finding}
    (hfirst : specifierUse name value ps use = .ok finding)
    (hrest : specifiers name value ps uses = .ok found) :
    specifiers name value ps (use :: uses) = .ok (finding.toList ++ found) := by
  obtain ⟨findings, hfindings, rfl⟩ := Attempt.map_eq_ok.mp hrest
  refine Attempt.map_eq_ok.mpr ⟨finding :: findings, ?_, ?_⟩
  · rw [List.mapM_cons, hfirst, hfindings]
    rfl
  · cases finding <;> rfl

theorem specifierUse_judged {i : Nat} {t : String} {p : Parameter} {verdict : Verdict}
    (hbound : ps[i]? = some p) (hverdict : Verdict.of p.type t = .ok verdict) :
    specifierUse name value ps ((i : Int), t) = .ok (specifierFinding name value t p verdict) := by
  rw [specifierUse_index, hbound]
  dsimp only
  rw [hverdict]
  rfl

/-- If every use is judged, the check of the uses returns, and what it finds follows them. -/
theorem exists_follows (file : Option String) (name value : String)
    (hjudged : ∀ use ∈ us, ∃ verdict, Judged ps use verdict) :
    ∃ found, specifiers name value ps (us.map fun (i, t) => ((i : Int), t)) = .ok found ∧
      Follows file name value ps us (reportAll file found) := by
  induction us with
  | nil => exact ⟨[], rfl, .nil⟩
  | cons use us ih =>
      obtain ⟨i, t⟩ := use
      obtain ⟨⟨verdict, p, hbound, hverdict⟩, hrest⟩ := List.forall_mem_cons.mp hjudged
      obtain ⟨found, hfound, hfollows⟩ := ih hrest
      refine ⟨_, specifiers_cons (specifierUse_judged hbound hverdict) hfound, ?_⟩
      cases verdict with
      | valid => exact .valid hbound hverdict hfollows
      | invalid => exact .invalid hbound hverdict hfollows
      | ineffective => exact .ineffective hbound hverdict hfollows

/-! ## Entries -/

theorem ne_nil_of_ofComment {comment : Option String}
    (hmode : Mode.ofComment comment = .ok (.parameterized ps)) : ps ≠ [] := by
  have hdeclared : declaredMode "" comment = .ok (.parameterized ps) := by
    rw [declaredMode, hmode]
    rfl
  exact (declaredMode_eq_iff.mp hdeclared).ne_nil

section Entry

variable {policy : Policy} {e : Entry}

theorem stringEntry_format (hmode : Mode.ofComment e.comment = .ok (.parameterized ps))
    (hscan : (Format.scan e.value).error = none) :
    stringEntry policy file e = parameterizedEntry file e (Format.scan e.value) ps := by
  unfold stringEntry
  rw [hmode]
  exact formatEntry_some hscan ps

/-- The index check has nothing to report, so the outcome is that of the specifiers. -/
theorem exists_outcome_of_indexes (hmode : Mode.ofComment e.comment = .ok (.parameterized ps))
    (hscan : (Format.scan e.value).error = none)
    (hindexes : (Format.scan e.value).used = Finset.range ps.length) {found : List Finding}
    (hfound : specifiers e.name e.value ps (signedUses (Format.scan e.value)) = .ok found) :
    ∃ out, stringEntry policy file e = .ok out ∧ out.diagnostics = reportAll file found := by
  have hindex : indexFinding? e.name (Format.scan e.value) ps.length = none :=
    indexFinding?_eq_none_iff.mpr
      ⟨List.length_pos_iff.mpr (ne_nil_of_ofComment hmode),
        Format.Scan.used_eq_range_iff.mp hindexes⟩
  rw [stringEntry_format hmode hscan, parameterizedEntry_exact hindex, hfound]
  exact ⟨_, rfl, rfl⟩

/-- Every use binds a parameter, so it is judged as soon as its check returns. -/
theorem judged_of_returns {value : String}
    (hindexes : (Format.scan value).used = Finset.range ps.length)
    (hreturns : ∀ i t p, (i, t) ∈ (Format.scan value).uses → ps[i]? = some p →
      ∃ verdict, Verdict.of p.type t = .ok verdict) :
    ∀ use ∈ (Format.scan value).uses, ∃ verdict, Judged ps use verdict := by
  rintro ⟨i, t⟩ huse
  have hused : i ∈ (Format.scan value).used :=
    List.mem_toFinset.mpr (List.mem_map_of_mem (Format.Scan.mem_uses.mp huse))
  rw [hindexes, Finset.mem_range] at hused
  have hbound : ps[i]? = some ps[i] := List.getElem?_eq_getElem hused
  obtain ⟨verdict, hverdict⟩ := hreturns i t _ huse hbound
  exact ⟨verdict, judged_of_bound hbound hverdict⟩

/-- An entry is withheld exactly if its diagnostics are not clean. -/
theorem EntryOutcome.Decided.withheld_iff {out : EntryOutcome} (h : out.Decided) :
    out.item = none ↔ isClean out.diagnostics = false := by
  rw [← h, Option.isSome_eq_false_iff, Option.isNone_iff_eq_none]

/-- **Findings follow the value.** A string entry declares parameters, and its value scans and
uses exactly their indexes. If the check of none of its specifiers fails, then whatever receives
the diagnostics is handed those that follow the distinct uses of the value, in the order of their
first appearance, and nothing else. The item is withheld exactly if one of the uses is
invalid. -/
theorem findings_follow_value (file : Option String) (policy : Policy)
    (hmode : Mode.ofComment e.comment = .ok (.parameterized ps))
    (hscan : (Format.scan e.value).error = none)
    (hindexes : (Format.scan e.value).used = Finset.range ps.length)
    (hreturns : ∀ i t p, (i, t) ∈ (Format.scan e.value).uses → ps[i]? = some p →
      ∃ verdict, Verdict.of p.type t = .ok verdict) :
    ∃ segments us ds item, Format.render segments = e.value.toList ∧
      FirstAppearances (Format.specified (Format.items segments)) us ∧
      Follows file e.name e.value ps us ds ∧
      (∀ {σ : Type} (receive : σ → Diagnostic → σ) (s : σ),
        (stringInto receive file policy e).run s = .ok (item, ds.foldl receive s)) ∧
      (item = none ↔ ∃ use ∈ us, Judged ps use .invalid) := by
  obtain ⟨segments, hsegments⟩ := (Format.scan_error_eq_none_iff e.value).mp hscan
  have huses : FirstAppearances (Format.specified (Format.items segments))
      (Format.scan e.value).uses := by
    rw [firstAppearances_iff, Format.Scan.uses_eq_eraseDups, Format.scan_items_of_render hsegments]
  obtain ⟨found, hfound, hfollows⟩ :=
    exists_follows file e.name e.value (judged_of_returns hindexes hreturns)
  obtain ⟨out, hout, hdiagnostics⟩ := exists_outcome_of_indexes hmode hscan hindexes hfound
  rw [← hdiagnostics] at hfollows
  refine ⟨segments, _, out.diagnostics, out.item, hsegments, huses, hfollows, ?_, ?_⟩
  · intro σ receive s
    rw [reports_stringInto, hout]
    rfl
  · rw [(decided_stringEntry hout).withheld_iff, ← Bool.not_eq_true, hfollows.isClean_iff]
    push Not
    rfl

/-! ## Two channels in one order -/

def mixedEntry : Entry :=
  ⟨"orders", "\x7b1:N\x7d \x7b0:Q\x7d \x7b1:N\x7d, \x7b0:D2\x7d \x7b1:X\x7d \x7b0:Q\x7d",
    some "\x7bint count, string owner\x7d", none⟩

def mixedParameters : List Parameter := [⟨"int", "count"⟩, ⟨"string", "owner"⟩]

def mixedFindings : List Diagnostic :=
  [(Finding.specifierOnText "orders" "N" "owner" mixedEntry.value).asWarning none,
    (Finding.invalidFormatSpecifier "orders" "Q" "count" "int").asError none,
    (Finding.specifierOnText "orders" "X" "owner" mixedEntry.value).asWarning none]

theorem findings_follow_value_mixed :
    Mode.ofComment mixedEntry.comment = .ok (.parameterized mixedParameters) ∧
      (Format.scan mixedEntry.value).error = none ∧
      (Format.scan mixedEntry.value).used = Finset.range mixedParameters.length ∧
      (∀ i t p, (i, t) ∈ (Format.scan mixedEntry.value).uses → mixedParameters[i]? = some p →
        ∃ verdict, Verdict.of p.type t = .ok verdict) ∧
      ∃ us, FirstAppearances [(1, "N"), (0, "Q"), (1, "N"), (0, "D2"), (1, "X"), (0, "Q")] us ∧
        Follows none "orders" mixedEntry.value mixedParameters us mixedFindings ∧
        (stringInto (fun ds d => ds ++ [d]) none .lenient mixedEntry).run [] =
          .ok (none, mixedFindings) ∧
        ∃ use ∈ us, Judged mixedParameters use .invalid := by
  have hmode : Mode.ofComment mixedEntry.comment = .ok (.parameterized mixedParameters) := by
    decide +kernel
  have hscan : (Format.scan mixedEntry.value).error = none := by decide +kernel
  have hindexes : (Format.scan mixedEntry.value).used = Finset.range mixedParameters.length := by
    decide +kernel
  have huses : (Format.scan mixedEntry.value).uses = [(1, "N"), (0, "Q"), (0, "D2"), (1, "X")] := by
    decide +kernel
  have hreturns : ∀ i t p, (i, t) ∈ (Format.scan mixedEntry.value).uses →
      mixedParameters[i]? = some p → ∃ verdict, Verdict.of p.type t = .ok verdict := by
    rw [huses]
    simp only [List.mem_cons, List.not_mem_nil, or_false, Prod.mk.injEq]
    rintro i t p (⟨rfl, rfl⟩ | ⟨rfl, rfl⟩ | ⟨rfl, rfl⟩ | ⟨rfl, rfl⟩) hbound <;> cases hbound
    · exact ⟨.ineffective, by decide +kernel⟩
    · exact ⟨.invalid, by decide +kernel⟩
    · exact ⟨.valid, by decide +kernel⟩
    · exact ⟨.ineffective, by decide +kernel⟩
  have hitems : Format.specified (Format.scan mixedEntry.value).items =
      [(1, "N"), (0, "Q"), (1, "N"), (0, "D2"), (1, "X"), (0, "Q")] := by
    decide +kernel
  have hrun : (stringInto (fun ds d => ds ++ [d]) none .lenient mixedEntry).run [] =
      .ok (none, mixedFindings) := by
    decide +kernel
  obtain ⟨segments, us, ds, item, hsegments, hfirst, hfollows, hreported, hwithheld⟩ :=
    findings_follow_value none .lenient hmode hscan hindexes hreturns
  rw [← Format.scan_items_of_render hsegments, hitems] at hfirst
  have hends := (hreported (fun ds d => ds ++ [d]) []).symm.trans hrun
  obtain ⟨rfl, hds⟩ := Prod.mk.inj (Except.ok.inj hends)
  have hsame : ds = mixedFindings := by simpa [← List.flatMap_def] using hds
  subst hsame
  exact ⟨hmode, hscan, hindexes, hreturns, us, hfirst, hfollows, hrun, hwithheld.mp rfl⟩

end Entry

end ResourceAudit.Check
