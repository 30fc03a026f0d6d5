import ResourceAudit.Proofs.Check.Overlong
import ResourceAudit.Proofs.Format.Recognition

/-!
# When a check completes

The only thing about a resource that ends the check of its group without a result is a
numeric specifier with an overlong precision, and only once the check has come as far as that
specifier (`group_completes_iff`). A precision of nines is one.
-/

namespace ResourceAudit.Check

/-! ## Groups -/

/-- Where the run of a group stops without a result: at a base entry, or, once the base has
been found clean, at a satellite that could not be obtained or at an entry of one that
could. An entry whose name is repeated is not looked at. -/
inductive Stops (policy : Policy) (baseFile : String) (opening : List Event)
    (entries : List Entry) (arrivals : List (Except Failure Arrival)) : Failure → Prop
  | base (e : Entry) (parameters : List Parameter) (n : Nat)
      (hfirst : (e, false) ∈ Entry.markRepeats entries) (hlong : OverlongEntry e parameters n) :
      Stops policy baseFile opening entries arrivals (.precisionTooLong n)
  | arrival (cs : List Contribution) (hbase : baseEntries policy baseFile entries = .ok cs)
      (hclean : Event.hasError (baseEvents opening cs) = false)
      (f : Failure) (hmem : .error f ∈ arrivals) :
      Stops policy baseFile opening entries arrivals f
  | satellite (cs : List Contribution) (hbase : baseEntries policy baseFile entries = .ok cs)
      (hclean : Event.hasError (baseEvents opening cs) = false)
      (met : Arrival) (hmem : .ok met ∈ arrivals) (s : Satellite) (hs : met.satellite = some s)
      (e : Entry) (item : Item) (n : Nat) (hfirst : (e, false) ∈ Entry.markRepeats s.entries)
      (hlong : OverlongLocalized (itemsOf cs) e item n) :
      Stops policy baseFile opening entries arrivals (.precisionTooLong n)

section Run

variable {policy : Policy} {baseFile : String} {opening : List Event} {entries : List Entry}
  {arrivals : List (Except Failure Arrival)} {f : Failure}

theorem arrival_eq_error {ref : Reference} {obtained : Except Failure Arrival}
    (h : arrival ref obtained = .error f) :
    obtained = .error f ∨
      ∃ met s, obtained = .ok met ∧ met.satellite = some s ∧ satelliteEntries ref s = .error f := by
  cases obtained with
  | error failure =>
      cases h
      exact Or.inl rfl
  | ok met =>
      obtain ⟨events, satellite⟩ := met
      cases satellite with
      | none => cases h
      | some s =>
          refine Or.inr ⟨_, s, rfl, rfl, ?_⟩
          have hbind : (satelliteEntries ref s >>= fun ds =>
              pure (events ++ ds.map Event.report)) = .error f := h
          cases hs : satelliteEntries ref s with
          | error failure =>
              rw [hs] at hbind
              cases hbind
              rfl
          | ok ds =>
              rw [hs] at hbind
              cases hbind

theorem arrival_fails {ref : Reference} {met : Arrival} {s : Satellite}
    (hs : met.satellite = some s) (h : ∃ f, satelliteEntries ref s = .error f) :
    ∃ f, arrival ref (.ok met) = .error f := by
  obtain ⟨f, hf⟩ := h
  obtain ⟨events, satellite⟩ := met
  cases hs
  refine ⟨f, ?_⟩
  show (satelliteEntries ref s >>= _) = _
  rw [hf]
  rfl

/-- Nothing else stops a run. -/
theorem stops_of_runGroup (h : runGroup policy baseFile opening entries arrivals = .error f) :
    Stops policy baseFile opening entries arrivals f := by
  cases hbase : baseEntries policy baseFile entries with
  | error failure =>
      rw [runGroup_failed hbase] at h
      cases h
      obtain ⟨e, parameters, n, hfirst, rfl, hlong⟩ := overlong_of_baseEntries hbase
      exact .base e parameters n hfirst hlong
  | ok cs =>
      cases hclean : Event.hasError (baseEvents opening cs) with
      | true =>
          rw [runGroup_skipped hbase hclean] at h
          cases h
      | false =>
          rw [runGroup_verified hbase hclean, Attempt.map_eq_error] at h
          obtain ⟨obtained, hmem, hfailed⟩ := Attempt.exists_of_mapM_eq_error h
          rcases arrival_eq_error hfailed with rfl | ⟨met, s, rfl, hs, hentries⟩
          · exact .arrival cs hbase hclean f hmem
          · obtain ⟨e, item, n, hfirst, rfl, hlong⟩ := overlong_of_satelliteEntries hentries
            exact .satellite cs hbase hclean met hmem s hs e item n hfirst hlong

theorem runGroup_stops (h : Stops policy baseFile opening entries arrivals f) :
    ∃ f, runGroup policy baseFile opening entries arrivals = .error f := by
  cases h with
  | base e parameters n hfirst hlong =>
      obtain ⟨failure, hf⟩ := baseEntries_fails hfirst hlong
      exact ⟨failure, runGroup_failed hf⟩
  | arrival cs hbase hclean _ hmem =>
      rw [runGroup_verified hbase hclean]
      obtain ⟨failure, hf⟩ := Attempt.exists_error_of_mem hmem
        (⟨f, rfl⟩ : ∃ f, arrival ⟨policy, baseFile, itemsOf cs⟩ _ = .error f)
      exact ⟨failure, Attempt.map_eq_error.mpr hf⟩
  | satellite cs hbase hclean met hmem s hs e item n hfirst hlong =>
      rw [runGroup_verified hbase hclean]
      have hentries := satelliteEntries_fails ⟨policy, baseFile, itemsOf cs⟩ hfirst hlong
      obtain ⟨failure, hf⟩ := Attempt.exists_error_of_mem hmem (arrival_fails hs hentries)
      exact ⟨failure, Attempt.map_eq_error.mpr hf⟩

/-- A run completes exactly if it stops nowhere. -/
theorem runGroup_completes_iff :
    (∃ run, runGroup policy baseFile opening entries arrivals = .ok run) ↔
      ∀ f, ¬ Stops policy baseFile opening entries arrivals f :=
  Attempt.completes_iff (fun _ => stops_of_runGroup) fun _ => runGroup_stops

end Run

/-! ## Groups that have been read -/

/-- The check of a group comes to a precision of `n` digits, which are too many: in a base
entry, or in a satellite entry once the base has been found clean. -/
inductive MeetsOverlong (policy : Policy) (baseFile : String) (entries : List Entry)
    (satellites : List Satellite) (n : Nat) : Prop
  | base (e : Entry) (parameters : List Parameter)
      (hfirst : (e, false) ∈ Entry.markRepeats entries) (hlong : OverlongEntry e parameters n)
  | satellite (cs : List Contribution) (hbase : baseEntries policy baseFile entries = .ok cs)
      (hclean : isClean (Event.diagnostics (baseEvents [] cs)) = true)
      (s : Satellite) (hs : s ∈ satellites) (e : Entry) (item : Item)
      (hfirst : (e, false) ∈ Entry.markRepeats s.entries)
      (hlong : OverlongLocalized (itemsOf cs) e item n)

variable {policy : Policy} {baseFile : String} {entries : List Entry}
  {satellites : List Satellite}

theorem hasError_eq_false_iff {events : List Event} :
    Event.hasError events = false ↔ isClean (Event.diagnostics events) = true := by
  rw [Event.hasError_eq_not_isClean, Bool.not_eq_false']

/-- Satellites that have been read can be obtained, so only precisions are left to stop a
run. -/
theorem stops_iff_meetsOverlong {f : Failure} :
    Stops policy baseFile [] entries (satellites.map fun s => .ok ⟨[], some s⟩) f ↔
      ∃ n, f = .precisionTooLong n ∧ MeetsOverlong policy baseFile entries satellites n := by
  constructor
  · intro h
    cases h with
    | base e parameters n hfirst hlong => exact ⟨n, rfl, .base e parameters hfirst hlong⟩
    | arrival cs hbase hclean _ hmem =>
        obtain ⟨s, -, hs⟩ := List.mem_map.mp hmem
        cases hs
    | satellite cs hbase hclean met hmem s hs e item n hfirst hlong =>
        obtain ⟨s', hs', hmet⟩ := List.mem_map.mp hmem
        cases hmet
        cases hs
        exact ⟨n, rfl,
          .satellite cs hbase (hasError_eq_false_iff.mp hclean) s hs' e item hfirst hlong⟩
  · rintro ⟨n, rfl, h⟩
    cases h with
    | base e parameters hfirst hlong => exact .base e parameters n hfirst hlong
    | satellite cs hbase hclean s hs e item hfirst hlong =>
        have hmem : (.ok ⟨[], some s⟩ : Except Failure Arrival) ∈
            satellites.map fun s => .ok ⟨[], some s⟩ := List.mem_map.mpr ⟨s, hs, rfl⟩
        exact .satellite cs hbase (hasError_eq_false_iff.mpr hclean) _ hmem s rfl e item n
          hfirst hlong

theorem group_eq_error_iff {f : Failure} :
    group policy baseFile entries satellites = .error f ↔
      runGroup policy baseFile [] entries (satellites.map fun s => .ok ⟨[], some s⟩) = .error f :=
  Attempt.map_eq_error

theorem group_fails {n : Nat} (h : MeetsOverlong policy baseFile entries satellites n) :
    ∃ f, group policy baseFile entries satellites = .error f := by
  obtain ⟨f, hf⟩ := runGroup_stops (stops_iff_meetsOverlong.mpr ⟨n, rfl, h⟩)
  exact ⟨f, group_eq_error_iff.mpr hf⟩

/-- **When a group has a result.** Its check completes exactly if it never comes to an
overlong precision; nothing else in names, values, comments or type tags can end it. -/
theorem group_completes_iff (policy : Policy) (baseFile : String) (entries : List Entry)
    (satellites : List Satellite) :
    (∃ run, group policy baseFile entries satellites = .ok run) ↔
      ∀ n, ¬ MeetsOverlong policy baseFile entries satellites n := by
  unfold group
  rw [Attempt.exists_map_iff, runGroup_completes_iff]
  constructor
  · intro hnone n hmeets
    exact hnone _ (stops_iff_meetsOverlong.mpr ⟨n, rfl, hmeets⟩)
  · intro hnone f hstops
    obtain ⟨n, -, hmeets⟩ := stops_iff_meetsOverlong.mp hstops
    exact hnone n hmeets

/-! ## A precision of nines -/

/-- A value whose only specifier is a precision of `n` nines. -/
def ninesValue (n : Nat) : String :=
  "\x7b0:D" ++ String.ofList (List.replicate n '9') ++ "\x7d"

def ninesSpecifier (n : Nat) : Format.SpecifierText where
  chars := 'D' :: List.replicate n '9'
  chars_ne_nil := List.cons_ne_nil _ _
  no_brace := by
    intro c hc
    rcases List.mem_cons.mp hc with rfl | hc
    · decide
    · rw [List.eq_of_mem_replicate hc]
      decide

def ninesReading (n : Nat) : List Format.Segment :=
  [.item ⟨⟨['0'], Format.zero_ne_nil, Format.isDigit_of_mem_zero, Format.zero_lt_numberBound⟩,
    0, none, some (ninesSpecifier n)⟩]

theorem render_ninesReading (n : Nat) : Format.render (ninesReading n) = (ninesValue n).toList := by
  have hnines : (String.ofList (List.replicate n '9')).toList = List.replicate n '9' :=
    String.toList_ofList
  unfold ninesValue ninesReading
  rw [Format.render_cons, Format.render_nil, List.append_nil, String.toList_append,
    String.toList_append, hnines]
  rfl

def ninesItem (n : Nat) : Format.Item := ⟨0, some (ninesSpecifier n).string⟩

theorem items_ninesValue (n : Nat) : (Format.scan (ninesValue n)).items = [ninesItem n] := by
  rw [Format.scan_items_of_render (render_ninesReading n)]
  rfl

def ninesEntry (n : Nat) : Entry := ⟨"amount", ninesValue n, some "\x7bint n\x7d", none⟩

theorem overlong_nines {n : Nat} (h : Failure.precisionDigitLimit < n) :
    Verdict.Overlong "int" (ninesSpecifier n).string n where
  numeric := by decide +kernel
  precision := by
    refine ⟨⟨'D', List.replicate n '9', String.toList_ofList, by decide, ?_, ?_⟩, h⟩
    · rw [List.all_replicate]
      simp
    · exact List.length_replicate

theorem overlongEntry_nines {n : Nat} (h : Failure.precisionDigitLimit < n) :
    OverlongEntry (ninesEntry n) [⟨"int", "n"⟩] n where
  string := rfl
  declared := by
    show Mode.ofComment (some "\x7bint n\x7d") = _
    decide +kernel
  scans := (Format.scan_error_eq_none_iff _).mpr ⟨_, render_ninesReading n⟩
  indexes := by
    show Ascending.ofList ((Format.scan (ninesValue n)).items.map Format.Item.index) = _
    rw [items_ninesValue]
    rfl
  overlong := by
    refine ⟨0, (ninesSpecifier n).string, ⟨"int", "n"⟩, ?_, rfl, overlong_nines h⟩
    rw [Format.Scan.mem_uses]
    show _ ∈ (Format.scan (ninesValue n)).items
    rw [items_ninesValue]
    exact List.mem_singleton_self _

/-- One digit more than can be read, and the group has no result. -/
theorem group_of_nines_has_no_result :
    ¬ ∃ run, group .strict "Strings.resx" [ninesEntry 4301] [] = .ok run := by
  rw [← Attempt.exists_error_iff]
  have hlong : OverlongEntry (ninesEntry 4301) [⟨"int", "n"⟩] 4301 :=
    overlongEntry_nines (by decide)
  exact group_fails (.base _ _ List.mem_cons_self hlong)

end ResourceAudit.Check
