import ResourceAudit.Check.Entry
import ResourceAudit.Proofs.Declaration.Mode

/-!
# Declared modes

The comment of a resource declares a mode, or it is refused with a diagnostic that names the
resource. Every comment is in exactly one of the cases of `Declares`, which says in terms of its
text alone what follows (`mode_decided`). Blanks in front of a comment never count, and neither
does anything behind a declaration or behind a list that is refused for one of its pieces
(`notes_never_count`).
-/

namespace ResourceAudit.Check

open Text (dropBlank allBlank trim strip)

/-- The mode that the comment of a resource declares, or the diagnostic that refuses it. -/
def declaredMode (name : String) (comment : Option String) : Except Diagnostic Mode :=
  (Mode.ofComment comment).mapError fun refusal => (declarationFinding name refusal).diagnostic

/-- The pieces that are not blank, trimmed. -/
def variantsOf (pieces : List (List Char)) : List String :=
  (pieces.filter (!allBlank ·)).map fun piece => String.ofList (trim piece)

/-- What the comment of a resource declares, case by case. A list ends at its first closing
bracket, and its pieces stand between commas. -/
inductive Declares (name : String) : Option String → Except Diagnostic Mode → Prop
  | missing : Declares name none (.ok .plain)
  | suppressed {comment : String} {note : List Char}
      (hopen : dropBlank comment.toList = '-' :: note) :
      Declares name (some comment) (.ok .suppressed)
  | enumeration {comment : String} {list note : List Char} {pieces : List (List Char)}
      (hopen : dropBlank comment.toList = '!' :: '(' :: (list ++ ')' :: note))
      (hlist : ')' ∉ list) (hcut : Text.IsCut ',' list pieces) :
      Declares name (some comment) (.ok (.enumeration (variantsOf pieces)))
  | empty {comment : String} {body note : List Char}
      (hopen : dropBlank comment.toList = '{' :: (body ++ '}' :: note)) (hbody : '}' ∉ body)
      (hblank : allBlank body = true) :
      Declares name (some comment)
        (.error (Finding.emptyParameterDeclaration name (strip comment)).diagnostic)
  | parameterized {comment : String} {body note : List Char} {pieces : List (List Char)}
      {ps : List Parameter}
      (hopen : dropBlank comment.toList = '{' :: (body ++ '}' :: note)) (hbody : '}' ∉ body)
      (hcut : Text.IsCut ',' body pieces) (hpieces : List.Forall₂ Parameter.IsPiece pieces ps) :
      Declares name (some comment) (.ok (.parameterized ps))
  | refused {comment : String} {body note piece : List Char} {front back : List (List Char)}
      (hopen : dropBlank comment.toList = '{' :: (body ++ '}' :: note)) (hbody : '}' ∉ body)
      (hblank : allBlank body = false) (hcut : Text.IsCut ',' body (front ++ piece :: back))
      (hfront : ∀ q ∈ front, ∃ p, Parameter.IsPiece q p)
      (hpiece : ∀ p, ¬ Parameter.IsPiece piece p) :
      Declares name (some comment)
        (.error (Finding.badParameterDeclaration name (String.ofList (trim piece))).diagnostic)
  | plain {comment : String} (hdash : ∀ note, dropBlank comment.toList ≠ '-' :: note)
      (hvariants : ∀ list note, dropBlank comment.toList ≠ '!' :: '(' :: (list ++ ')' :: note))
      (hparameters : ∀ body note, dropBlank comment.toList ≠ '{' :: (body ++ '}' :: note)) :
      Declares name (some comment) (.ok .plain)

variable {name : String} {comment : Option String} {outcome : Except Diagnostic Mode}

/-- Every comment is in one of the cases. -/
theorem exists_declares (name : String) (comment : Option String) :
    ∃ outcome, Declares name comment outcome := by
  cases comment with
  | none => exact ⟨_, .missing⟩
  | some comment =>
      have hcut : ∀ cs, Text.IsCut ',' cs (Text.pieces ',' cs) := fun cs => Text.isCut_iff.mpr rfl
      cases Mode.opening (dropBlank comment.toList) with
      | dash hopen => exact ⟨_, .suppressed hopen⟩
      | variantList hopen hlist => exact ⟨_, .enumeration hopen hlist (hcut _)⟩
      | @parameterList body note hopen hbody =>
          by_cases hblank : allBlank body = true
          · exact ⟨_, .empty hopen hbody hblank⟩
          rcases Mode.declared_or_refused (Text.pieces ',' body) with
            ⟨ps, hps⟩ | ⟨front, piece, back, hpieces, hfront, hpiece⟩
          · exact ⟨_, .parameterized hopen hbody (hcut _) hps⟩
          · exact ⟨_, .refused hopen hbody (Bool.eq_false_iff.mpr hblank) (hpieces ▸ hcut body)
              hfront hpiece⟩
      | other hdash hvariants hparameters => exact ⟨_, .plain hdash hvariants hparameters⟩

theorem declaredMode_of_read {comment : String} {result : Except DeclarationError Mode}
    (h : Mode.read comment.toList = result) :
    declaredMode name (some comment) =
      result.mapError fun refusal => (declarationFinding name refusal).diagnostic := by
  rw [← h]
  rfl

theorem declaredMode_of_declares (h : Declares name comment outcome) :
    declaredMode name comment = outcome := by
  cases h with
  | missing => rfl
  | suppressed hopen => exact declaredMode_of_read (Mode.read_dash hopen)
  | enumeration hopen hlist hcut =>
      rw [Text.isCut_iff] at hcut
      subst hcut
      rw [declaredMode_of_read (Mode.read_variantList hopen hlist), Mode.readVariants_eq]
      rfl
  | empty hopen hbody hblank =>
      rw [declaredMode_of_read (Mode.read_parameterList hopen hbody),
        Mode.readParameters_blank hblank]
      rfl
  | parameterized hopen hbody hcut hpieces =>
      rw [Text.isCut_iff] at hcut
      subst hcut
      rw [declaredMode_of_read (Mode.read_parameterList hopen hbody),
        Mode.readParameters_eq_ok_iff.mpr hpieces]
      rfl
  | refused hopen hbody hblank hcut hfront hpiece =>
      rw [Text.isCut_iff] at hcut
      rw [declaredMode_of_read (Mode.read_parameterList hopen hbody), Mode.readParameters,
        if_neg (Bool.eq_false_iff.mp hblank), ← hcut, Mode.readPieces_refused hfront hpiece]
      rfl
  | plain hdash hvariants hparameters =>
      exact declaredMode_of_read (Mode.read_other hdash hvariants hparameters)

theorem declaredMode_eq_iff :
    declaredMode name comment = outcome ↔ Declares name comment outcome := by
  refine ⟨?_, declaredMode_of_declares⟩
  rintro rfl
  obtain ⟨outcome, houtcome⟩ := exists_declares name comment
  rw [declaredMode_of_declares houtcome]
  exact houtcome

theorem Declares.ne_nil {ps : List Parameter}
    (h : Declares name comment (.ok (.parameterized ps))) : ps ≠ [] := by
  cases h with
  | parameterized _ _ hcut hpieces =>
      rintro rfl
      exact hcut.ne_nil (List.forall₂_nil_right_iff.mp hpieces)

/-- **Modes are decided exactly.** What is made of a comment is what its case says, and no list of
parameters that is accepted is empty. -/
theorem mode_decided (name : String) (comment : Option String) :
    (∀ outcome, declaredMode name comment = outcome ↔ Declares name comment outcome) ∧
      ∀ ps, declaredMode name comment = .ok (.parameterized ps) → ps ≠ [] := by
  refine ⟨fun outcome => declaredMode_eq_iff, ?_⟩
  intro ps hps
  exact (declaredMode_eq_iff.mp hps).ne_nil

def bracedComment : String := "\n\x7bint i,\t@b . C ? d\x7d, \x7bx\x7d"

def bracedParameters : List Parameter := [⟨"int", "i"⟩, ⟨"@b.C?", "d"⟩]

theorem mode_decided_braced :
    declaredMode "total" (some bracedComment) = .ok (.parameterized bracedParameters) ∧
      Declares "total" (some bracedComment) (.ok (.parameterized bracedParameters)) ∧
      bracedParameters ≠ [] := by
  have hmode : declaredMode "total" (some bracedComment) =
      .ok (.parameterized bracedParameters) := by decide +kernel
  obtain ⟨hdecided, hne⟩ := mode_decided "total" (some bracedComment)
  exact ⟨hmode, (hdecided _).mp hmode, hne _ hmode⟩

/-! ## Notes -/

/-- The outcomes after which the rest of a comment is a note. -/
inductive Settled : Except Diagnostic Mode → Prop
  | suppressed : Settled (.ok .suppressed)
  | enumeration (variants : List String) : Settled (.ok (.enumeration variants))
  | parameterized (ps : List Parameter) : Settled (.ok (.parameterized ps))
  | refused {d : Diagnostic} (hcode : d.code = .badParameterDeclaration) : Settled (.error d)

theorem dropBlank_append_note {comment : String} {opened : List Char}
    (hopen : dropBlank comment.toList = opened) (hne : opened ≠ []) (note : String) :
    dropBlank (comment ++ note).toList = opened ++ note.toList := by
  subst hopen
  rw [String.toList_append, Text.dropBlank_append_of_ne_nil hne]

/-- A list that is closed stays closed where it was. -/
theorem dropBlank_append_list {comment : String} {list rest : List Char} {stop : Char}
    (opener : List Char) (hopen : dropBlank comment.toList = opener ++ (list ++ stop :: rest))
    (note : String) :
    dropBlank (comment ++ note).toList = opener ++ (list ++ stop :: (rest ++ note.toList)) := by
  rw [dropBlank_append_note hopen (by simp)]
  simp

theorem Declares.append_note {comment : String} (h : Declares name (some comment) outcome)
    (hsettled : Settled outcome) (note : String) :
    Declares name (some (comment ++ note)) outcome := by
  cases h with
  | suppressed hopen => exact .suppressed (dropBlank_append_note hopen (by simp) note)
  | enumeration hopen hlist hcut =>
      exact .enumeration (dropBlank_append_list ['!', '('] hopen note) hlist hcut
  | empty =>
      cases hsettled with
      | refused hcode => cases hcode
  | parameterized hopen hbody hcut hpieces =>
      exact .parameterized (dropBlank_append_list ['{'] hopen note) hbody hcut hpieces
  | refused hopen hbody hblank hcut hfront hpiece =>
      exact .refused (dropBlank_append_list ['{'] hopen note) hbody hblank hcut hfront hpiece
  | plain => cases hsettled

/-- **Notes and leading blanks never count.** Blanks in front of a comment change nothing. Behind a
declaration, or a list refused for one of its pieces, nothing else does, whatever it contains. -/
theorem notes_never_count (name comment : String) :
    (∀ w : String, allBlank w.toList = true →
      declaredMode name (some (w ++ comment)) = declaredMode name (some comment)) ∧
    (Settled (declaredMode name (some comment)) → ∀ note : String,
      declaredMode name (some (comment ++ note)) = declaredMode name (some comment)) := by
  constructor
  · intro w hw
    have hread : Mode.read (w ++ comment).toList = Mode.read comment.toList := by
      rw [String.toList_append, Mode.read_blank_append hw]
    rw [declaredMode_of_read hread, declaredMode_of_read rfl]
  · intro hsettled note
    have hdeclares : Declares name (some comment) (declaredMode name (some comment)) :=
      declaredMode_eq_iff.mp rfl
    exact declaredMode_of_declares (hdeclares.append_note hsettled note)

def refusedComment : String := "\t\x7bint i, 2 j, \x7dn"

/-- Behind the list that is refused stands another list, and a dash in front of it. -/
def misleadingNote : String := "-\x7bint i, int j\x7d\n!(a)"

theorem notes_never_count_misleading :
    declaredMode "total" (some refusedComment) =
        .error (Finding.badParameterDeclaration "total" "2 j").diagnostic ∧
      declaredMode "total" (some (refusedComment ++ misleadingNote)) =
        .error (Finding.badParameterDeclaration "total" "2 j").diagnostic ∧
      declaredMode "total" (some ("\u2003\n" ++ refusedComment)) =
        .error (Finding.badParameterDeclaration "total" "2 j").diagnostic := by
  have hrefused : declaredMode "total" (some refusedComment) =
      .error (Finding.badParameterDeclaration "total" "2 j").diagnostic := by decide +kernel
  have hsettled : Settled (declaredMode "total" (some refusedComment)) := by
    rw [hrefused]
    exact .refused rfl
  obtain ⟨hblanks, hnotes⟩ := notes_never_count "total" refusedComment
  refine ⟨hrefused, ?_, ?_⟩
  · rw [hnotes hsettled]
    exact hrefused
  · rw [hblanks "\u2003\n" (by decide)]
    exact hrefused

end ResourceAudit.Check
