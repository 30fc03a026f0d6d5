import Mathlib.Algebra.Group.Nat.Even
import Mathlib.Data.List.DropRight
import Mathlib.Order.Nat
import ResourceAudit.Proofs.Specifier.Positions

/-!
# Escaped quotes

Where a quoted literal ends, seen from the quotes. The reader of a literal goes from left to right
and drops an escaped character together with its backslash. Whether a quote is escaped can be
told by looking back instead: an odd number of backslashes stands right before it, not counting
any before the literal. Both agree (`literal_iff_escapes`), since an even number of backslashes
stands before each character that the reader comes to. So a literal closes at its first quote
that is not escaped (`literal_closes_at_first_unescaped_quote`).
-/

namespace ResourceAudit.Pattern

/-! ## Backslashes at the end of a text -/

/-- How many backslashes a text ends with. -/
def backslashes (cs : List Char) : Nat :=
  (cs.rtakeWhile (· == '\\')).length

@[simp]
theorem backslashes_nil : backslashes [] = 0 := by
  rw [backslashes, List.rtakeWhile_nil, List.length_nil]

@[simp]
theorem backslashes_concat_self (cs : List Char) :
    backslashes (cs ++ ['\\']) = backslashes cs + 1 := by
  rw [backslashes, List.rtakeWhile_concat_pos _ _ _ (by decide), List.length_append,
    List.length_singleton]
  rfl

theorem backslashes_concat_of_ne {c : Char} (h : c ≠ '\\') (cs : List Char) :
    backslashes (cs ++ [c]) = 0 := by
  rw [backslashes, List.rtakeWhile_concat_neg _ _ _ (by simpa using h), List.length_nil]

theorem even_backslashes_plain {c : Char} (h : c ≠ '\\') (seen : List Char) :
    Even (backslashes (seen ++ [c])) := by
  rw [backslashes_concat_of_ne h]
  exact Even.zero

/-- An escape keeps the number of backslashes even, whichever character it escapes. -/
theorem even_backslashes_escape {seen : List Char} (h : Even (backslashes seen)) (c : Char) :
    Even (backslashes (seen ++ ['\\'] ++ [c])) := by
  by_cases hc : c = '\\'
  · rw [hc, backslashes_concat_self, backslashes_concat_self, Nat.even_add_one, Nat.even_add_one,
      not_not]
    exact h
  · exact even_backslashes_plain hc _

/-! ## Literals by looking back -/

section Literals

variable {quote c : Char} {seen body : List Char}

/-- After the text `seen`, each quote in the text `body` is escaped, and what follows is not. -/
structure Escapes (quote : Char) (seen body : List Char) : Prop where
  quotes : ∀ before after, body = before ++ quote :: after →
    ¬ Even (backslashes (seen ++ before))
  ending : Even (backslashes (seen ++ body))

theorem escapes_nil_iff : Escapes quote seen [] ↔ Even (backslashes seen) := by
  constructor
  · rintro ⟨-, hending⟩
    rwa [List.append_nil] at hending
  · intro h
    refine ⟨?_, ?_⟩
    · intro before after hnil
      simp at hnil
    · rwa [List.append_nil]

theorem escapes_cons_iff :
    Escapes quote seen (c :: body) ↔
      (c = quote → ¬ Even (backslashes seen)) ∧ Escapes quote (seen ++ [c]) body := by
  constructor
  · rintro ⟨hquotes, hending⟩
    refine ⟨?_, ?_, ?_⟩
    · rintro rfl
      have hfirst := hquotes [] body rfl
      rwa [List.append_nil] at hfirst
    · rintro before after rfl
      rw [← List.append_cons]
      exact hquotes (c :: before) after rfl
    · rwa [← List.append_cons]
  · rintro ⟨hfirst, hquotes, hending⟩
    refine ⟨?_, ?_⟩
    · intro before after h
      rcases List.cons_eq_append_iff.mp h with ⟨rfl, hcons⟩ | ⟨before, rfl, rfl⟩
      · rw [List.append_nil]
        exact hfirst (List.cons.inj hcons).1.symm
      · rw [List.append_cons]
        exact hquotes before after rfl
    · rwa [List.append_cons]

/-- Where no escape is open, the next character must not be the quote. -/
theorem escapes_plain_iff (hseen : Even (backslashes seen)) :
    Escapes quote seen (c :: body) ↔ c ≠ quote ∧ Escapes quote (seen ++ [c]) body := by
  have hfirst : (c = quote → ¬ Even (backslashes seen)) ↔ c ≠ quote :=
    ⟨fun h hc => h hc hseen, fun h hc => absurd hc h⟩
  rw [escapes_cons_iff, hfirst]

/-- What follows a backslash is escaped, even if it is the quote. -/
theorem escapes_escape_iff (hquote : quote ≠ '\\') (hseen : Even (backslashes seen)) :
    Escapes quote seen ('\\' :: c :: body) ↔ Escapes quote (seen ++ ['\\'] ++ [c]) body := by
  have hopen : ¬ Even (backslashes (seen ++ ['\\'])) := by
    rw [backslashes_concat_self, Nat.even_add_one, not_not]
    exact hseen
  rw [escapes_plain_iff hseen, escapes_cons_iff]
  constructor
  · rintro ⟨-, -, h⟩
    exact h
  · intro h
    exact ⟨hquote.symm, fun _ => hopen, h⟩

/-- A backslash at the very end leaves an escape open. -/
theorem not_escapes_backslash (hseen : Even (backslashes seen)) :
    ¬ Escapes quote seen ['\\'] := by
  rw [escapes_plain_iff hseen, escapes_nil_iff, backslashes_concat_self, Nat.even_add_one]
  rintro ⟨-, hodd⟩
  exact hodd hseen

/-- What may stand between quotes is what escapes every quote in it. -/
theorem literal_iff_escapes (hquote : quote ≠ '\\') (hseen : Even (backslashes seen)) :
    Literal quote body ↔ Escapes quote seen body := by
  -- In both directions what has been seen grows by one token, which keeps its backslashes even.
  constructor
  · intro h
    induction h generalizing seen with
    | nil => exact escapes_nil_iff.mpr hseen
    | plain c hne hescape _ ih =>
        exact (escapes_plain_iff hseen).mpr ⟨hne, ih (even_backslashes_plain hescape seen)⟩
    | escaped c _ ih =>
        exact (escapes_escape_iff hquote hseen).mpr (ih (even_backslashes_escape hseen c))
  · intro h
    fun_induction afterQuoted quote body generalizing seen with
    | case1 => exact .nil
    | case2 => exact absurd h (not_escapes_backslash hseen)
    | case3 c tail ih =>
        have htail := (escapes_escape_iff hquote hseen).mp h
        exact .escaped c (ih (even_backslashes_escape hseen c) htail)
    | case4 tail hescape => exact absurd rfl ((escapes_plain_iff hseen).mp h).1
    | case5 c tail hescape hne ih =>
        have htail := ((escapes_plain_iff hseen).mp h).2
        exact .plain c hne hescape (ih (even_backslashes_plain hescape seen) htail)

end Literals

/-! ## The closing quote -/

/-- The text between two positions, without the characters at both. -/
def between (pattern : List Char) (opening closing : Nat) : List Char :=
  (pattern.drop (opening + 1)).take (closing - (opening + 1))

/-- A quote further on that is not escaped: the backslashes right before it, as far as they stand
after the opening quote, are even in number. -/
structure Closes (pattern : List Char) (quote : Char) (opening closing : Nat) : Prop where
  onward : opening < closing
  quoted : pattern[closing]? = some quote
  unescaped : Even (backslashes (between pattern opening closing))

instance (pattern : List Char) (quote : Char) (opening closing : Nat) :
    Decidable (Closes pattern quote opening closing) :=
  decidable_of_iff
    (opening < closing ∧ pattern[closing]? = some quote ∧
      Even (backslashes (between pattern opening closing)))
    ⟨fun ⟨h, h', h''⟩ => ⟨h, h', h''⟩, fun ⟨h, h', h''⟩ => ⟨h, h', h''⟩⟩

section Closing

variable {pattern cs rest body : List Char} {quote c : Char} {opening closing position : Nat}

theorem drop_of_getElem? (h : pattern[position]? = some c) :
    pattern.drop position = c :: pattern.drop (position + 1) := by
  rw [List.drop_eq_getElem?_toList_append, h]
  rfl

theorem startOf_drop (h : position ≤ pattern.length) :
    startOf pattern (pattern.drop position) = position := by
  rw [startOf, List.length_drop, Nat.sub_sub_self h]

theorem Closes.lt_length (h : Closes pattern quote opening closing) : closing < pattern.length :=
  (List.getElem?_eq_some_iff.mp h.quoted).1

/-- The quotes that may close a literal, as cuts of the text after the opening quote. -/
theorem closes_iff (hcs : pattern.drop (opening + 1) = cs) :
    Closes pattern quote opening closing ↔
      ∃ before after, cs = before ++ quote :: after ∧ Even (backslashes before) ∧
        closing = opening + 1 + before.length := by
  constructor
  · rintro ⟨honward, hquoted, hunescaped⟩
    obtain ⟨n, rfl⟩ := Nat.exists_eq_add_of_le (Nat.succ_le_of_lt honward)
    rw [between, hcs, Nat.add_sub_cancel_left] at hunescaped
    have hafter : cs.drop n = quote :: cs.drop (n + 1) := by
      apply drop_of_getElem?
      rw [← hcs, List.getElem?_drop]
      exact hquoted
    have hlength : n < cs.length := lt_length_of_drop hafter
    refine ⟨cs.take n, cs.drop (n + 1), ?_, hunescaped, ?_⟩
    · rw [← hafter, List.take_append_drop]
    · rw [List.length_take_of_le (Nat.le_of_lt hlength)]
  · rintro ⟨before, after, hcut, heven, rfl⟩
    refine ⟨by omega, ?_, ?_⟩
    · rw [← List.getElem?_drop, hcs, hcut, List.getElem?_append_right (Nat.le_refl _),
        Nat.sub_self]
      rfl
    · rw [between, hcs, hcut, Nat.add_sub_cancel_left, List.take_left]
      exact heven

/-- The first quote that may close a literal is the one right after a text that may stand
between quotes. -/
theorem isLeast_closes_iff (hquote : quote ≠ '\\') (hcs : pattern.drop (opening + 1) = cs) :
    IsLeast {j | Closes pattern quote opening j} closing ↔
      ∃ body rest, cs = body ++ quote :: rest ∧ Literal quote body ∧
        closing = opening + 1 + body.length := by
  have hnone : Even (backslashes []) := by simp
  constructor
  · rintro ⟨hcloses, hfirst⟩
    obtain ⟨body, rest, hcut, heven, rfl⟩ := (closes_iff hcs).mp hcloses
    refine ⟨body, rest, hcut, (literal_iff_escapes hquote hnone).mpr ⟨?_, heven⟩, rfl⟩
    intro before after hbody hbefore
    have hearlier : Closes pattern quote opening (opening + 1 + before.length) := by
      refine (closes_iff hcs).mpr ⟨before, after ++ quote :: rest, ?_, hbefore, rfl⟩
      rw [hcut, hbody, List.append_assoc, List.cons_append]
    have hle := hfirst hearlier
    rw [hbody, List.length_append, List.length_cons] at hle
    omega
  · rintro ⟨body, rest, hcut, hbody, rfl⟩
    obtain ⟨hquotes, heven⟩ := (literal_iff_escapes hquote hnone).mp hbody
    refine ⟨(closes_iff hcs).mpr ⟨body, rest, hcut, heven, rfl⟩, ?_⟩
    intro j hj
    obtain ⟨before, after, hcut', hbefore, rfl⟩ := (closes_iff hcs).mp hj
    -- A quote before the end of the literal is one of those that are escaped.
    rcases List.append_eq_append_iff.mp (hcut'.symm.trans hcut) with
      ⟨middle, rfl, hmiddle⟩ | ⟨middle, rfl, -⟩
    · rcases List.cons_eq_append_iff.mp hmiddle with ⟨rfl, -⟩ | ⟨more, rfl, -⟩
      · rw [List.append_nil]
      · exact absurd hbefore (hquotes before more rfl)
    · rw [List.length_append]
      omega

theorem afterQuoted_of_isLeast (hquote : quote ≠ '\\')
    (h : IsLeast {j | Closes pattern quote opening j} closing) :
    afterQuoted quote (pattern.drop (opening + 1)) = some (pattern.drop (closing + 1)) := by
  obtain ⟨body, rest, hcut, hbody, rfl⟩ := (isLeast_closes_iff hquote rfl).mp h
  have hclosing : pattern.drop (opening + 1 + body.length) = quote :: rest := by
    rw [← List.drop_drop, hcut, List.drop_left]
  rw [hcut, afterQuoted_literal hquote hbody, drop_succ hclosing]

theorem afterQuoted_of_not_closes (hquote : quote ≠ '\\')
    (h : ∀ closing, ¬ Closes pattern quote opening closing) :
    afterQuoted quote (pattern.drop (opening + 1)) = none := by
  cases hread : afterQuoted quote (pattern.drop (opening + 1)) with
  | none => rfl
  | some rest =>
      obtain ⟨body, hbody, hcut⟩ := exists_literal_of_afterQuoted hread
      have hleast := (isLeast_closes_iff hquote rfl).mpr ⟨body, rest, hcut, hbody, rfl⟩
      exact absurd hleast.1 (h _)

/-- **Literals close at the first unescaped quote.** A literal that a quote opens ends right after
the first of the same quotes further on that an even number of backslashes stands before, those
before the literal not counted. It stays open if there is no such quote. This is where the text
after the opening quote is cut as well. -/
theorem literal_closes_at_first_unescaped_quote (hopening : pattern[opening]? = some quote)
    (hquote : isQuote quote = true) :
    (∀ closing, IsLeast {j | Closes pattern quote opening j} closing →
        quotedEnd pattern opening = .ok (some (closing + 1)) ∧
          afterQuoted quote (pattern.drop (opening + 1)) = some (pattern.drop (closing + 1))) ∧
      ((∀ j, ¬ Closes pattern quote opening j) →
        quotedEnd pattern opening = .ok none ∧
          afterQuoted quote (pattern.drop (opening + 1)) = none) := by
  have hescape : quote ≠ '\\' := by
    rintro rfl
    exact absurd hquote (by decide)
  have hend := quotedEnd_eq (drop_of_getElem? hopening)
  constructor
  · intro closing hleast
    have hread := afterQuoted_of_isLeast hescape hleast
    refine ⟨?_, hread⟩
    rw [hend, hread, Option.map_some, startOf_drop hleast.1.lt_length]
  · intro hopen
    have hread := afterQuoted_of_not_closes hescape hopen
    refine ⟨?_, hread⟩
    rw [hend, hread, Option.map_none]

/-- A literal with an escaped quote, the other quote and two escaped backslashes in it, and after
it a quote that nothing closes any more: the backslash before the last quote escapes it. -/
def layeredPattern : List Char := "yy 'a\\'\"\\\\\\\\' \"it's\\\"".toList

theorem literal_closes_at_first_unescaped_quote_layered :
    layeredPattern[3]? = some '\'' ∧ isQuote '\'' = true ∧
      IsLeast {j | Closes layeredPattern '\'' 3 j} 12 ∧
      quotedEnd layeredPattern 3 = .ok (some 13) ∧
      layeredPattern[14]? = some '"' ∧ isQuote '"' = true ∧
      (∀ j, ¬ Closes layeredPattern '"' 14 j) ∧
      quotedEnd layeredPattern 14 = .ok none := by
  have hsingle : layeredPattern[3]? = some '\'' := by decide +kernel
  have hdouble : layeredPattern[14]? = some '"' := by decide +kernel
  have hearlier : ∀ j < 12, ¬ Closes layeredPattern '\'' 3 j := by decide +kernel
  have hleast : IsLeast {j | Closes layeredPattern '\'' 3 j} 12 := by
    refine ⟨show Closes layeredPattern '\'' 3 12 by decide +kernel, ?_⟩
    intro j hj
    exact Nat.le_of_not_lt fun hlt => hearlier j hlt hj
  have hwithin : ∀ j < layeredPattern.length, ¬ Closes layeredPattern '"' 14 j := by
    decide +kernel
  have hopen : ∀ j, ¬ Closes layeredPattern '"' 14 j := fun j hj => hwithin j hj.lt_length hj
  have hends := (literal_closes_at_first_unescaped_quote hsingle rfl).1 12 hleast
  have hstays := (literal_closes_at_first_unescaped_quote hdouble rfl).2 hopen
  exact ⟨hsingle, rfl, hleast, hends.1, hdouble, rfl, hopen, hstays.1⟩

end Closing

end ResourceAudit.Pattern
