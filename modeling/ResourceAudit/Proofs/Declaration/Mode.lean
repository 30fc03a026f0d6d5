import Mathlib.Data.List.Forall2
import ResourceAudit.Declaration.Mode
import ResourceAudit.Proofs.Collection.Attempt
import ResourceAudit.Proofs.Declaration.Reading
import ResourceAudit.Proofs.Text.Pieces

/-!
# Modes of comments

How a comment begins decides what it declares (`Opening`): a dash, a list of variants or a list of
parameters that is closed somewhere, or anything else. There is one equation for each case. A list
of parameters is read as a whole, unless some piece of it is no declaration; then the first such
piece is reported.
-/

namespace ResourceAudit

open Text (dropBlank allBlank)

namespace Parameter

/-- The piece of a list declares the parameter. -/
def IsPiece (piece : List Char) (p : Parameter) : Prop :=
  parse? (String.ofList piece) = some p

/-- A blank text declares nothing. -/
theorem not_isPiece_of_allBlank {piece : List Char} (h : allBlank piece = true) (p : Parameter) :
    ¬ IsPiece piece p := by
  intro hp
  obtain ⟨r, -⟩ := exists_reading hp
  obtain ⟨c, hc, hblank⟩ := r.exists_not_blank
  rw [String.toList_ofList] at hc
  simp [List.all_eq_true.mp h c hc] at hblank

end Parameter

namespace Mode

/-! ## Lists of parameters -/

theorem readPieces_eq_ok_iff {pieces : List (List Char)} {ps : List Parameter} :
    readPieces pieces = .ok ps ↔ List.Forall₂ Parameter.IsPiece pieces ps := by
  induction pieces generalizing ps with
  | nil =>
      rw [List.forall₂_nil_left_iff]
      constructor
      · intro h
        cases h
        rfl
      · rintro rfl
        rfl
  | cons piece pieces ih =>
      rw [readPieces, List.forall₂_cons_left_iff]
      cases hparse : Parameter.parse? (String.ofList piece) with
      | none => simp [Parameter.IsPiece, hparse]
      | some p =>
          constructor
          · intro h
            cases hrest : readPieces pieces with
            | error refusal =>
                rw [hrest] at h
                cases h
            | ok rest =>
                rw [hrest] at h
                cases h
                exact ⟨p, rest, hparse, ih.mp hrest, rfl⟩
          · rintro ⟨p', rest, hp, hrest, rfl⟩
            cases hparse.symm.trans hp
            rw [ih.mpr hrest]
            rfl

/-- The pieces before the first one that is refused leave no trace. -/
theorem readPieces_refused {front back : List (List Char)} {piece : List Char}
    (hfront : ∀ q ∈ front, ∃ p, Parameter.IsPiece q p) (hpiece : ∀ p, ¬ Parameter.IsPiece piece p) :
    readPieces (front ++ piece :: back) = .error (.bad (String.ofList (Text.trim piece))) := by
  induction front with
  | nil =>
      have hnone : Parameter.parse? (String.ofList piece) = none :=
        Option.eq_none_iff_forall_ne_some.mpr hpiece
      rw [List.nil_append, readPieces, hnone]
  | cons q front ih =>
      obtain ⟨⟨p, hp⟩, hfront⟩ := List.forall_mem_cons.mp hfront
      rw [List.cons_append, readPieces, hp, ih hfront]
      rfl

/-- Either all pieces declare parameters, or there is a first one that does not. -/
theorem declared_or_refused (pieces : List (List Char)) :
    (∃ ps, List.Forall₂ Parameter.IsPiece pieces ps) ∨
      ∃ front piece back, pieces = front ++ piece :: back ∧
        (∀ q ∈ front, ∃ p, Parameter.IsPiece q p) ∧ ∀ p, ¬ Parameter.IsPiece piece p := by
  induction pieces with
  | nil => exact Or.inl ⟨[], .nil⟩
  | cons piece pieces ih =>
      by_cases hpiece : ∃ p, Parameter.IsPiece piece p
      · rcases ih with ⟨ps, hps⟩ | ⟨front, refused, back, rfl, hfront, hrefused⟩
        · obtain ⟨p, hp⟩ := hpiece
          exact Or.inl ⟨p :: ps, .cons hp hps⟩
        · exact Or.inr ⟨piece :: front, refused, back, rfl,
            List.forall_mem_cons.mpr ⟨hpiece, hfront⟩, hrefused⟩
      · exact Or.inr ⟨[], piece, pieces, rfl, by simp, not_exists.mp hpiece⟩

theorem readParameters_blank {comment body : List Char} (h : allBlank body = true) :
    readParameters comment body = .error (.empty (String.ofList (Text.trim comment))) := by
  rw [readParameters, if_pos h]

theorem readParameters_eq_ok_iff {comment body : List Char} {ps : List Parameter} :
    readParameters comment body = .ok ps ↔
      List.Forall₂ Parameter.IsPiece (Text.pieces ',' body) ps := by
  by_cases hblank : allBlank body = true
  · rw [readParameters_blank hblank]
    have hpieces : Text.pieces ',' body = [body] := by
      apply Text.pieces_of_notMem
      intro hcomma
      exact Bool.false_ne_true (List.all_eq_true.mp hblank ',' hcomma)
    constructor
    · intro h
      cases h
    · intro hall
      rw [hpieces, List.forall₂_cons_left_iff] at hall
      obtain ⟨p, -, hp, -⟩ := hall
      exact absurd hp (Parameter.not_isPiece_of_allBlank hblank p)
  · rw [readParameters, if_neg hblank]
    exact readPieces_eq_ok_iff

theorem ne_nil_of_readParameters {comment body : List Char} {ps : List Parameter}
    (h : readParameters comment body = .ok ps) : ps ≠ [] := by
  rintro rfl
  have hall := readParameters_eq_ok_iff.mp h
  exact Text.pieces_ne_nil ',' body (List.forall₂_nil_right_iff.mp hall)

/-! ## Lists of variants -/

theorem readVariants_eq (list : List Char) :
    readVariants list =
      ((Text.pieces ',' list).filter (!allBlank ·)).map fun piece =>
        String.ofList (Text.trim piece) := by
  have hkept : ((fun cs : List Char => !cs.isEmpty) ∘ Text.trim) = (!allBlank ·) := by
    funext piece
    rw [Function.comp_apply, Bool.not_inj_iff, Bool.eq_iff_iff, List.isEmpty_iff,
      Text.trim_eq_nil_iff]
  rw [readVariants, List.filter_map, hkept, List.map_map]
  rfl

/-! ## Beginnings -/

/-- How a comment begins once its leading blanks are dropped. A list counts only if it is closed,
and it ends at its first closing bracket. -/
inductive Opening (cs : List Char) : Prop
  | dash {note : List Char} (h : cs = '-' :: note) : Opening cs
  | variantList {list note : List Char} (h : cs = '!' :: '(' :: (list ++ ')' :: note))
      (hlist : ')' ∉ list) : Opening cs
  | parameterList {body note : List Char} (h : cs = '{' :: (body ++ '}' :: note))
      (hbody : '}' ∉ body) : Opening cs
  | other (hdash : ∀ note, cs ≠ '-' :: note)
      (hvariants : ∀ list note, cs ≠ '!' :: '(' :: (list ++ ')' :: note))
      (hparameters : ∀ body note, cs ≠ '{' :: (body ++ '}' :: note)) : Opening cs

theorem opening (cs : List Char) : Opening cs := by
  by_cases hdash : ∃ note, cs = '-' :: note
  · obtain ⟨note, h⟩ := hdash
    exact .dash h
  by_cases hvariants : ∃ list note, cs = '!' :: '(' :: (list ++ ')' :: note)
  · obtain ⟨list, note, h⟩ := hvariants
    have hmem : ')' ∈ list ++ ')' :: note := by simp
    obtain ⟨first, rest, hfirst, hnotMem⟩ := List.eq_append_cons_of_mem hmem
    exact .variantList (by rw [h, hfirst]) hnotMem
  by_cases hparameters : ∃ body note, cs = '{' :: (body ++ '}' :: note)
  · obtain ⟨body, note, h⟩ := hparameters
    have hmem : '}' ∈ body ++ '}' :: note := by simp
    obtain ⟨first, rest, hfirst, hnotMem⟩ := List.eq_append_cons_of_mem hmem
    exact .parameterList (by rw [h, hfirst]) hnotMem
  simp only [not_exists] at hdash hvariants hparameters
  exact .other hdash hvariants hparameters

/-- Blanks in front do not count. -/
theorem read_blank_append {w : List Char} (hw : allBlank w = true) (comment : List Char) :
    read (w ++ comment) = read comment := by
  unfold read readParameters
  rw [Text.dropBlank_append_of_allBlank hw, Text.trim_append_of_allBlank hw]

section

variable {comment list body note : List Char}

theorem read_dash (h : dropBlank comment = '-' :: note) : read comment = .ok .suppressed := by
  unfold read
  rw [h]
  rfl

theorem read_variantList (h : dropBlank comment = '!' :: '(' :: (list ++ ')' :: note))
    (hlist : ')' ∉ list) : read comment = .ok (.enumeration (readVariants list)) := by
  unfold read
  rw [h]
  simp [Text.before?_append hlist]

theorem read_parameterList (h : dropBlank comment = '{' :: (body ++ '}' :: note))
    (hbody : '}' ∉ body) : read comment = (readParameters comment body).map .parameterized := by
  unfold read
  rw [h]
  simp [Text.before?_append hbody]

theorem read_other (hdash : ∀ note, dropBlank comment ≠ '-' :: note)
    (hvariants : ∀ list note, dropBlank comment ≠ '!' :: '(' :: (list ++ ')' :: note))
    (hparameters : ∀ body note, dropBlank comment ≠ '{' :: (body ++ '}' :: note)) :
    read comment = .ok .plain := by
  unfold read
  split
  · rename_i note h
    exact absurd h (hdash note)
  · rename_i rest h
    split
    · rename_i list hlist
      obtain ⟨-, note, rfl⟩ := Text.before?_eq_some_iff.mp hlist
      exact absurd h (hvariants list note)
    · rfl
  · rename_i rest h
    split
    · rename_i body hbody
      obtain ⟨-, note, rfl⟩ := Text.before?_eq_some_iff.mp hbody
      exact absurd h (hparameters body note)
    · rfl
  · rfl

end

theorem read_eq_suppressed_iff {comment : List Char} :
    read comment = .ok .suppressed ↔ ∃ note, dropBlank comment = '-' :: note := by
  refine ⟨?_, fun ⟨note, hopen⟩ => read_dash hopen⟩
  intro h
  cases opening (dropBlank comment) with
  | dash hopen => exact ⟨_, hopen⟩
  | variantList hopen hlist =>
      rw [read_variantList hopen hlist] at h
      cases h
  | parameterList hopen hbody =>
      rw [read_parameterList hopen hbody] at h
      obtain ⟨ps, -, hsame⟩ := Attempt.map_eq_ok.mp h
      cases hsame
  | other hdash hvariants hparameters =>
      rw [read_other hdash hvariants hparameters] at h
      cases h

theorem exists_body_of_read {comment : List Char} {ps : List Parameter}
    (h : read comment = .ok (.parameterized ps)) :
    ∃ body, readParameters comment body = .ok ps := by
  cases opening (dropBlank comment) with
  | dash hopen =>
      rw [read_dash hopen] at h
      cases h
  | variantList hopen hlist =>
      rw [read_variantList hopen hlist] at h
      cases h
  | @parameterList body _ hopen hbody =>
      rw [read_parameterList hopen hbody] at h
      obtain ⟨ps', hps, hsame⟩ := Attempt.map_eq_ok.mp h
      cases hsame
      exact ⟨body, hps⟩
  | other hdash hvariants hparameters =>
      rw [read_other hdash hvariants hparameters] at h
      cases h

theorem exists_list_of_read {comment : List Char} {vs : List String}
    (h : read comment = .ok (.enumeration vs)) :
    ∃ list, ')' ∉ list ∧ vs = readVariants list := by
  cases opening (dropBlank comment) with
  | dash hopen =>
      rw [read_dash hopen] at h
      cases h
  | variantList hopen hlist =>
      rw [read_variantList hopen hlist] at h
      cases h
      exact ⟨_, hlist, rfl⟩
  | parameterList hopen hbody =>
      rw [read_parameterList hopen hbody] at h
      obtain ⟨ps, -, hsame⟩ := Attempt.map_eq_ok.mp h
      cases hsame
  | other hdash hvariants hparameters =>
      rw [read_other hdash hvariants hparameters] at h
      cases h

end Mode

end ResourceAudit
