import ResourceAudit.Proofs.Diagnostic.Json
import ResourceAudit.Proofs.Text.OneLine

/-!
# Diagnostics as JSON objects

The JSON line of a diagnostic is one line whatever its texts contain, since the controls among
them are escaped. Read as JSON, it is an object with the fields of the diagnostic as members, of
which the file, the resource and the hint are left out if they are empty. So the line settles the
diagnostic up to the difference between an empty field and an absent one
(`json_line_reads_back`).
-/

namespace ResourceAudit

open Json (Scalar)

namespace Code

theorem mem_all (c : Code) : c ∈ all := by
  cases c <;> decide

theorem number_injective : Function.Injective number := by
  have hall : ∀ c ∈ all, ∀ d ∈ all, c.number = d.number → c = d := by decide
  exact fun c d h => hall c (mem_all c) d (mem_all d) h

end Code

theorem Severity.name_injective : Function.Injective Severity.name := by
  intro s t h
  cases s <;> cases t <;> first | rfl | exact absurd h (by decide)

namespace Diagnostic

/-- A field as far as it says something: an empty text says no more than none. -/
def stated (field : Option String) : Option String :=
  field.filter (· ≠ "")

def statedMember (name : String) (field : Option String) : List (String × Scalar) :=
  (stated field).toList.map fun text => (name, .string text)

/-- The fields of a diagnostic as members of an object. -/
def members (d : Diagnostic) : List (String × Scalar) :=
  [("code", .string d.code.name),
    ("code_value", .number d.code.number),
    ("message", .string d.message),
    ("severity", .string d.severity.name)] ++
  statedMember "file" d.file ++ statedMember "resource" d.resource ++ statedMember "hint" d.hint

/-- Two diagnostics say the same. -/
structure Agrees (d e : Diagnostic) : Prop where
  code : d.code = e.code
  message : d.message = e.message
  severity : d.severity = e.severity
  file : stated d.file = stated e.file
  resource : stated d.resource = stated e.resource
  hint : stated d.hint = stated e.hint

@[simp]
theorem lookup_statedMember (key name : String) (field : Option String) :
    (statedMember name field).lookup key =
      if key = name then (stated field).map .string else none := by
  unfold statedMember
  cases stated field with
  | none => simp
  | some text =>
      by_cases h : key = name
      · simp [h]
      · simp [List.lookup_cons, beq_false_of_ne h, h]

theorem string_map_injective {s t : Option String}
    (h : s.map Scalar.string = t.map Scalar.string) : s = t :=
  Option.map_injective (fun _ _ => Scalar.string.inj) h

/-- The members are the same exactly for diagnostics that say the same. -/
theorem members_eq_iff {d e : Diagnostic} : d.members = e.members ↔ d.Agrees e := by
  constructor
  · intro h
    have hlookup (key : String) : d.members.lookup key = e.members.lookup key := by rw [h]
    have hnumber : d.code.number = e.code.number := by
      simpa [members, List.lookup_cons, List.lookup_append] using hlookup "code_value"
    have hmessage : d.message = e.message := by
      simpa [members, List.lookup_cons, List.lookup_append] using hlookup "message"
    have hseverity : d.severity.name = e.severity.name := by
      simpa [members, List.lookup_cons, List.lookup_append] using hlookup "severity"
    have hfile : (stated d.file).map Scalar.string = (stated e.file).map .string := by
      simpa [members, List.lookup_cons, List.lookup_append] using hlookup "file"
    have hresource : (stated d.resource).map Scalar.string = (stated e.resource).map .string := by
      simpa [members, List.lookup_cons, List.lookup_append] using hlookup "resource"
    have hhint : (stated d.hint).map Scalar.string = (stated e.hint).map .string := by
      simpa [members, List.lookup_cons, List.lookup_append] using hlookup "hint"
    exact ⟨Code.number_injective hnumber, hmessage, Severity.name_injective hseverity,
      string_map_injective hfile, string_map_injective hresource, string_map_injective hhint⟩
  · intro h
    simp only [members, statedMember, h.code, h.message, h.severity, h.file, h.resource, h.hint]

end Diagnostic

namespace LineStyle

open Text (OneLine isBreak)

theorem present_eq_statedMember (name : String) (field : Option String) :
    members.present name field =
      (Diagnostic.statedMember name field).map Json.written := by
  unfold members.present
  split
  · rfl
  · rfl
  · rename_i text hne
    have hstated : Diagnostic.stated (some text) = some text :=
      Option.filter_some_pos (by simpa using hne)
    rw [Diagnostic.statedMember, hstated]
    rfl

/-- A JSON line is the object of what a diagnostic says in the length allowed. -/
theorem line_json {style : LineStyle} (h : style.format = .json) (d : Diagnostic) :
    style.line d = object
      (({ d with message := style.clip d.message } : Diagnostic).members.map Json.written) := by
  unfold line
  rw [h]
  simp only [members, present_eq_statedMember, Diagnostic.members, List.map_append]
  rfl

/-! ## One line -/

theorem isBreak_hexDigit {n : Nat} (h : n < 16) : isBreak (Quoted.hexDigit n) = false := by
  have hall : ∀ n < 16, isBreak (Quoted.hexDigit n) = false := by decide
  exact hall n h

/-- No escape ends a line: what would end one is written by a letter. -/
theorem isBreak_of_mem_escape {c d : Char} (h : d ∈ Quoted.escape c) : isBreak d = false := by
  obtain ⟨heq, -, -, hcontrol⟩ | ⟨e, heq, hletter⟩ | ⟨heq, hcontrol⟩ := Json.escape_cases c
  · rw [heq, List.mem_singleton] at h
    subst h
    rw [isBreak, Bool.or_eq_false_iff, beq_eq_false_iff_ne, beq_eq_false_iff_ne]
    constructor <;> rintro rfl <;> exact absurd hcontrol (by decide)
  · have he : isBreak e = false := by
      rw [isBreak, Bool.or_eq_false_iff, beq_eq_false_iff_ne, beq_eq_false_iff_ne]
      constructor <;> rintro rfl <;> cases hletter
    rw [heq] at h
    rcases List.mem_pair.mp h with rfl | rfl
    · decide
    · exact he
  · have hhigh := isBreak_hexDigit (n := c.toNat / 16) (by omega)
    have hlow := isBreak_hexDigit (n := c.toNat % 16) (by omega)
    rw [heq] at h
    simp only [List.mem_cons, List.not_mem_nil, or_false] at h
    rcases h with rfl | rfl | rfl | rfl | rfl | rfl
    · decide
    · decide
    · decide
    · decide
    · exact hhigh
    · exact hlow

theorem oneLine_encode (s : String) : OneLine (Quoted.encode s) := by
  apply Text.oneLine_ofList
  intro d hd
  rw [List.mem_append, List.mem_cons, List.mem_singleton] at hd
  obtain (rfl | hd) | rfl := hd
  · decide
  · obtain ⟨c, -, hd⟩ := List.mem_flatMap.mp hd
    exact isBreak_of_mem_escape hd
  · decide

theorem oneLine_write (value : Scalar) : OneLine value.write := by
  cases value with
  | string s => exact oneLine_encode s
  | number n => exact Text.oneLine_toString n

theorem oneLine_object {members : List (String × String)} (h : ∀ m ∈ members, OneLine m.2) :
    OneLine (object members) := by
  have hmarks : OneLine "\x7b" ∧ OneLine "\x7d" ∧ OneLine ", " ∧ OneLine ": " :=
    ⟨Text.oneLine_literal (by decide), Text.oneLine_literal (by decide),
      Text.oneLine_literal (by decide), Text.oneLine_literal (by decide)⟩
  obtain ⟨hopen, hclose, hcomma, hcolon⟩ := hmarks
  rw [object, Text.oneLine_append, Text.oneLine_append, Text.oneLine_intercalate hcomma]
  refine ⟨⟨hopen, fun part hpart => ?_⟩, hclose⟩
  obtain ⟨m, hm, rfl⟩ := List.mem_map.mp hpart
  simp only [Text.oneLine_append]
  exact ⟨⟨oneLine_encode m.1, hcolon⟩, h m hm⟩

/-- A JSON line is one line, whatever is quoted in it and however much of it. -/
theorem oneLine_line_json {style : LineStyle} (h : style.format = .json) (d : Diagnostic) :
    OneLine (style.line d) := by
  rw [line_json h]
  apply oneLine_object
  intro m hm
  obtain ⟨m', -, rfl⟩ := List.mem_map.mp hm
  exact oneLine_write m'.2

/-- **JSON lines are read back.** The JSON line of a diagnostic whose texts are not cut is one
line and stands for an object with the members of the diagnostic and no others. The lines of two
diagnostics are the same exactly if the diagnostics say the same. -/
theorem json_line_reads_back (d : Diagnostic) :
    let style : LineStyle := ⟨.json, none⟩
    OneLine (style.line d) ∧ Json.object? (style.line d) = some d.members ∧
      ∀ e, style.line d = style.line e ↔ d.Agrees e := by
  intro style
  have hwritten (d : Diagnostic) : style.line d = object (d.members.map Json.written) :=
    line_json rfl d
  have hread (d : Diagnostic) : Json.object? (style.line d) = some d.members := by
    rw [hwritten, Json.object?_object]
  refine ⟨oneLine_line_json rfl d, hread d, fun e => ?_⟩
  rw [← Diagnostic.members_eq_iff]
  constructor
  · intro h
    have hsame := hread d
    rw [h, hread e] at hsame
    exact (Option.some.inj hsame).symm
  · intro h
    rw [hwritten, hwritten, h]

end LineStyle

end ResourceAudit
