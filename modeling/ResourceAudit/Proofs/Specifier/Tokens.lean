import ResourceAudit.Proofs.Text.Run
import ResourceAudit.Specifier.Position
import ResourceAudit.Specifier.Verdict

/-!
# The tokens of custom patterns

A custom pattern is cut into tokens from left to right: runs of a letter, quoted literals,
percent signs, escaped characters and bare ones. Patterns for dates and for durations differ in
what a token may be (`Dialect`), not in how they are cut. The first character of a text settles
where its first token ends (`token_of_next?`, `next?_of_token`), so a check that drops one token
after another accepts exactly the texts that can be cut (`accepts_iff_cut`).
-/

namespace ResourceAudit.Pattern

open Text (Stops takeWhile_run dropWhile_run stops_dropWhile)

/-- What may stand between quotes: any character but the quote, or one after a backslash. -/
inductive Literal (quote : Char) : List Char → Prop
  | nil : Literal quote []
  | plain (c : Char) {body : List Char} (hquote : c ≠ quote) (hescape : c ≠ '\\')
      (h : Literal quote body) : Literal quote (c :: body)
  | escaped (c : Char) {body : List Char} (h : Literal quote body) :
      Literal quote ('\\' :: c :: body)

/-- The tokens, each with the text that follows it. A run goes as far as its letter does. -/
inductive Token (d : Dialect) : List Char → List Char → Prop
  | run (c : Char) (n : Nat) (rest : List Char) (hpos : 0 < n) (hlimit : n ≤ d.runLimit c)
      (hmaximal : Stops (· == c) rest) : Token d (List.replicate n c) rest
  | quoted (quote : Char) {body : List Char} (rest : List Char)
      (hquote : quote = '\'' ∨ quote = '"') (hbody : Literal quote body) :
      Token d (quote :: (body ++ [quote])) rest
  | percent (c : Char) (rest : List Char) (hnext : d.afterPercent c = true) :
      Token d ['%'] (c :: rest)
  | escaped (c : Char) (rest : List Char) : Token d ['\\', c] rest
  | bare (c : Char) (rest : List Char) (hbare : d.hasBare = true) (hmark : isMark c = false)
      (hletter : d.runLimit c = 0) : Token d [c] rest

/-- A text that can be cut into tokens. -/
inductive Cut (d : Dialect) : List Char → Prop
  | nil : Cut d []
  | cons {text rest : List Char} (htoken : Token d text rest) (hrest : Cut d rest) :
      Cut d (text ++ rest)

/-! ## Literals -/

section Literals

variable {quote : Char} {body cs rest : List Char}

theorem afterQuoted_plain {c : Char} (hescape : c ≠ '\\') (cs : List Char) :
    afterQuoted quote (c :: cs) = if c = quote then some cs else afterQuoted quote cs := by
  rw [afterQuoted]
  intro h
  exact absurd h hescape

theorem afterQuoted_literal (hquote : quote ≠ '\\') (h : Literal quote body) (rest : List Char) :
    afterQuoted quote (body ++ quote :: rest) = some rest := by
  induction h with
  | nil => rw [List.nil_append, afterQuoted_plain hquote, if_pos rfl]
  | plain c hne hescape _ ih => rw [List.cons_append, afterQuoted_plain hescape, if_neg hne, ih]
  | escaped c _ ih => exact ih

theorem exists_literal_of_afterQuoted (h : afterQuoted quote cs = some rest) :
    ∃ body, Literal quote body ∧ cs = body ++ quote :: rest := by
  fun_induction afterQuoted quote cs with
  | case1 => cases h
  | case2 => cases h
  | case3 c tail ih =>
      obtain ⟨body, hbody, rfl⟩ := ih h
      exact ⟨'\\' :: c :: body, .escaped c hbody, rfl⟩
  | case4 tail =>
      cases h
      exact ⟨[], .nil, rfl⟩
  | case5 c tail hescape hne ih =>
      obtain ⟨body, hbody, rfl⟩ := ih h
      exact ⟨c :: body, .plain c hne hescape hbody, rfl⟩

end Literals

/-! ## The first token -/

/-- What is left of a text after its first token. -/
def Dialect.next? (d : Dialect) (c : Char) (cs : List Char) : Option (List Char) :=
  if 0 < d.runLimit c then
    if runLength c cs + 1 ≤ d.runLimit c then some (dropRun c cs) else none
  else if isQuote c then afterQuoted c cs
  else if c = '%' then cs.head?.bind fun next => if d.afterPercent next then some cs else none
  else if c = '\\' then cs.tail?
  else if d.hasBare then some cs else none

variable {d : Dialect} {c : Char} {cs rest text : List Char}

theorem next?_letter (h : 0 < d.runLimit c) (cs : List Char) :
    d.next? c cs = if runLength c cs + 1 ≤ d.runLimit c then some (dropRun c cs) else none :=
  if_pos h

theorem next?_quote (h : isQuote c = true) (cs : List Char) :
    d.next? c cs = afterQuoted c cs := by
  have hlimit : d.runLimit c = 0 := d.runLimit_mark c (by simp [isMark, h])
  simp [Dialect.next?, hlimit, h]

theorem next?_percent (cs : List Char) :
    d.next? '%' cs = cs.head?.bind fun next => if d.afterPercent next then some cs else none := by
  have hlimit : d.runLimit '%' = 0 := d.runLimit_mark _ rfl
  simp [Dialect.next?, hlimit, isQuote]

theorem next?_escape (cs : List Char) : d.next? '\\' cs = cs.tail? := by
  have hlimit : d.runLimit '\\' = 0 := d.runLimit_mark _ rfl
  simp [Dialect.next?, hlimit, isQuote]

theorem next?_other (hletter : d.runLimit c = 0) (hmark : isMark c = false) (cs : List Char) :
    d.next? c cs = if d.hasBare then some cs else none := by
  simp only [isMark, Bool.or_eq_false_iff, beq_eq_false_iff_ne] at hmark
  simp [Dialect.next?, hletter, hmark]

/-- What a token can begin with. -/
theorem first_cases (d : Dialect) (c : Char) :
    0 < d.runLimit c ∨ isQuote c = true ∨ c = '%' ∨ c = '\\' ∨
      (d.runLimit c = 0 ∧ isMark c = false) := by
  by_cases hletter : 0 < d.runLimit c
  · exact Or.inl hletter
  · have hzero : d.runLimit c = 0 := Nat.eq_zero_of_not_pos hletter
    cases hmark : isMark c with
    | false => simp [hzero]
    | true => simpa [isMark, hzero, or_assoc] using hmark

/-- A letter and its repetitions, taken apart. -/
theorem cons_eq_run (c : Char) (cs : List Char) :
    c :: cs = List.replicate (runLength c cs + 1) c ++ dropRun c cs := by
  have hrun : cs.takeWhile (· == c) = List.replicate (runLength c cs) c := by
    apply List.eq_replicate_of_mem
    intro x hx
    have hsame := List.mem_takeWhile_imp (p := fun x => x == c) hx
    simpa using hsame
  rw [List.replicate_succ, List.cons_append, ← hrun]
  exact congrArg (c :: ·) List.takeWhile_append_dropWhile.symm

theorem token_of_next? (h : d.next? c cs = some rest) :
    ∃ text, Token d text rest ∧ c :: cs = text ++ rest := by
  rcases first_cases d c with hletter | hquote | rfl | rfl | ⟨hletter, hmark⟩
  · rw [next?_letter hletter] at h
    split at h
    · rename_i hlimit
      cases h
      exact ⟨_, .run c _ _ (Nat.succ_pos _) hlimit (stops_dropWhile cs), cons_eq_run c cs⟩
    · cases h
  · rw [next?_quote hquote] at h
    obtain ⟨body, hbody, rfl⟩ := exists_literal_of_afterQuoted h
    have hquotes : c = '\'' ∨ c = '"' := by simpa [isQuote] using hquote
    exact ⟨_, .quoted c rest hquotes hbody, by simp⟩
  · rw [next?_percent] at h
    cases cs with
    | nil => cases h
    | cons next after =>
        have hnext : (if d.afterPercent next then some (next :: after) else none) = some rest := h
        split at hnext
        · rename_i hafter
          cases hnext
          exact ⟨['%'], .percent next _ hafter, rfl⟩
        · cases hnext
  · rw [next?_escape] at h
    cases cs with
    | nil => cases h
    | cons escaped after =>
        cases h
        exact ⟨['\\', escaped], .escaped escaped _, rfl⟩
  · rw [next?_other hletter hmark] at h
    split at h
    · rename_i hbare
      cases h
      exact ⟨[c], .bare c cs hbare hmark hletter, rfl⟩
    · cases h

/-- A token is the first one of the text that it begins, whatever it is. -/
theorem next?_of_token (h : Token d text rest) (heq : c :: cs = text ++ rest) :
    d.next? c cs = some rest := by
  cases h with
  | run letter n _ hpos hlimit hmaximal =>
      obtain ⟨m, rfl⟩ := Nat.exists_eq_succ_of_ne_zero (Nat.ne_of_gt hpos)
      rw [List.replicate_succ, List.cons_append] at heq
      obtain ⟨rfl, rfl⟩ := List.cons.inj heq
      have hrun : ∀ x ∈ List.replicate m c, (x == c) = true := by simp
      have hlength : runLength c (List.replicate m c ++ rest) = m := by
        rw [runLength, takeWhile_run hrun hmaximal, List.length_replicate]
      have hdrop : dropRun c (List.replicate m c ++ rest) = rest := dropWhile_run hrun hmaximal
      rw [next?_letter (by omega), hlength, hdrop, if_pos hlimit]
  | quoted quote _ hquote hbody =>
      rw [List.cons_append, List.append_assoc, List.singleton_append] at heq
      obtain ⟨rfl, rfl⟩ := List.cons.inj heq
      have hisQuote : isQuote c = true := by simpa [isQuote] using hquote
      have hescape : c ≠ '\\' := by rcases hquote with rfl | rfl <;> decide
      rw [next?_quote hisQuote, afterQuoted_literal hescape hbody]
  | percent next after hnext =>
      obtain ⟨rfl, rfl⟩ := List.cons.inj heq
      rw [next?_percent]
      exact if_pos hnext
  | escaped escaped _ =>
      obtain ⟨rfl, rfl⟩ := List.cons.inj heq
      rw [next?_escape]
      rfl
  | bare c' _ hbare hmark hletter =>
      obtain ⟨rfl, rfl⟩ := List.cons.inj heq
      rw [next?_other hletter hmark, if_pos hbare]

theorem Token.text_ne_nil (h : Token d text rest) : text ≠ [] := by
  cases h with
  | run c n _ hpos => simp [Nat.ne_of_gt hpos]
  | _ => exact List.cons_ne_nil _ _

/-! ## All tokens -/

/-- A check that drops one token after another accepts the texts that can be cut. -/
theorem accepts_iff_cut {accepts : List Char → Bool} (hnil : accepts [] = true)
    (hcons : ∀ c cs, accepts (c :: cs) = (d.next? c cs).any accepts) (cs : List Char) :
    accepts cs = true ↔ Cut d cs := by
  constructor
  · intro h
    -- The induction is on the length: a token may be longer than one character.
    induction hn : cs.length using Nat.strong_induction_on generalizing cs with
    | _ n ih =>
        cases cs with
        | nil => exact .nil
        | cons c cs =>
            rw [hcons] at h
            cases hnext : d.next? c cs with
            | none =>
                rw [hnext] at h
                cases h
            | some rest =>
                rw [hnext] at h
                obtain ⟨text, htoken, heq⟩ := token_of_next? hnext
                have hpos : 0 < text.length := List.length_pos_iff.mpr htoken.text_ne_nil
                have hlength : rest.length < n := by
                  rw [← hn, heq, List.length_append]
                  omega
                rw [heq]
                exact .cons htoken (ih rest.length hlength rest h rfl)
  · intro h
    induction h with
    | nil => exact hnil
    | @cons text rest htoken _ ih =>
        obtain ⟨c, tail, rfl⟩ := List.exists_cons_of_ne_nil htoken.text_ne_nil
        have hnext : d.next? c (tail ++ rest) = some rest := next?_of_token htoken rfl
        rw [List.cons_append, hcons, hnext]
        exact ih

end ResourceAudit.Pattern

namespace ResourceAudit.Verdict

open Pattern (Cut Dialect)

/-- The verdict on a specifier is valid if something holds, and invalid otherwise. -/
def Settles (typeName specifier : String) (p : Prop) : Prop :=
  (of typeName specifier = .ok valid ↔ p) ∧ (of typeName specifier = .ok invalid ↔ ¬ p)

/-- A single character is settled by a list of standard formats, and anything longer by the
tokens that it can be cut into. -/
structure SettledByTokens (typeName : String) (standard : List Char) (d : Dialect)
    (specifier : String) : Prop where
  single : ∀ c, specifier.toList = [c] → Settles typeName specifier (c ∈ standard)
  custom : 2 ≤ specifier.length → Settles typeName specifier (Cut d specifier.toList)

theorem settles_of_ofBool {typeName specifier : String} {accepted : Bool} {p : Prop}
    (h : of typeName specifier = .ok (ofBool accepted)) (hp : accepted = true ↔ p) :
    Settles typeName specifier p := by
  unfold Settles
  rw [h, ← hp]
  cases accepted <;> simp [ofBool]

/-- From a check of texts to the verdicts that it yields. -/
theorem settledByTokens_of_accepts {typeName specifier : String} {standard : List Char}
    {d : Dialect} {accepts : List Char → Bool}
    (hof : specifier.toList ≠ [] →
      of typeName specifier = .ok (ofBool (accepts specifier.toList)))
    (hsingle : ∀ c, accepts [c] = standard.contains c)
    (hcustom : ∀ cs : List Char, 2 ≤ cs.length → (accepts cs = true ↔ Cut d cs)) :
    SettledByTokens typeName standard d specifier := by
  constructor
  · intro c hc
    have hne : specifier.toList ≠ [] := by simp [hc]
    apply settles_of_ofBool (hof hne)
    rw [hc, hsingle]
    exact List.contains_iff_mem
  · intro hlength
    rw [← String.length_toList] at hlength
    have hne : specifier.toList ≠ [] := List.ne_nil_of_length_pos (by omega)
    exact settles_of_ofBool (hof hne) (hcustom _ hlength)

end ResourceAudit.Verdict
