import Mathlib.Data.List.Basic
import ResourceAudit.Text.Pieces

/-!
# Texts on one line

A text is on one line if no character of it ends a line. What is put together from such texts, or
cut out of one, is on one line again.
-/

namespace ResourceAudit.Text

/-- A line feed or a carriage return. -/
def isBreak (c : Char) : Bool :=
  c == '\n' || c == '\r'

def OneLine (s : String) : Prop :=
  ∀ c ∈ s.toList, isBreak c = false

instance (s : String) : Decidable (OneLine s) :=
  List.decidableBAll (fun c => isBreak c = false) s.toList

theorem oneLine_ofList {cs : List Char} (h : ∀ c ∈ cs, isBreak c = false) :
    OneLine (String.ofList cs) := by
  unfold OneLine
  rw [String.toList_ofList]
  exact h

/-- Literals are settled by this: they are lists of characters to begin with. -/
theorem oneLine_literal {cs : List Char} (h : cs.any isBreak = false) :
    OneLine (String.ofList cs) := by
  rw [List.any_eq_false] at h
  exact oneLine_ofList fun c hc => eq_false_of_ne_true (h c hc)

@[simp]
theorem oneLine_empty : OneLine "" := oneLine_literal (by decide)

@[simp]
theorem oneLine_append {s t : String} : OneLine (s ++ t) ↔ OneLine s ∧ OneLine t := by
  unfold OneLine
  rw [String.toList_append]
  exact List.forall_mem_append

/-- A joined text is on one line if the separator and all its parts are. -/
theorem oneLine_intercalate {separator : String} (hseparator : OneLine separator)
    {parts : List String} :
    OneLine (String.intercalate separator parts) ↔ ∀ part ∈ parts, OneLine part := by
  induction parts with
  | nil => simp
  | cons part parts ih =>
      cases parts with
      | nil => simp
      | cons next parts =>
          rw [String.intercalate_cons_cons, oneLine_append, oneLine_append, ih,
            @List.forall_mem_cons _ _ part, and_iff_left hseparator]

theorem isBreak_of_isDigit {c : Char} (h : c.isDigit = true) : isBreak c = false := by
  rw [isBreak, Bool.or_eq_false_iff, beq_eq_false_iff_ne, beq_eq_false_iff_ne]
  constructor <;> rintro rfl <;> cases h

theorem oneLine_toString (n : Nat) : OneLine (toString n) := by
  rw [Nat.toString_eq_ofList_toDigits]
  apply oneLine_ofList
  intro c hc
  exact isBreak_of_isDigit (Nat.isDigit_of_mem_toDigits (by decide) (by decide) hc)

theorem mem_of_mem_slice {start stop : Int} {cs : List Char} {c : Char}
    (h : c ∈ slice start stop cs) : c ∈ cs :=
  List.mem_of_mem_take (List.mem_of_mem_drop h)

end ResourceAudit.Text
