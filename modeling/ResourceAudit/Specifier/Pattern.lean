/-!
# Custom patterns

What date and duration patterns have in common: runs of one letter, and quoted
literals in which a backslash escapes the next character.
-/

namespace ResourceAudit.Pattern

def isQuote (c : Char) : Bool :=
  c == '\'' || c == '"'

/-- How often a character is repeated at the start of a text. -/
def runLength (c : Char) (cs : List Char) : Nat :=
  (cs.takeWhile (· == c)).length

/-- The text after the repetitions of a character. -/
def dropRun (c : Char) (cs : List Char) : List Char :=
  cs.dropWhile (· == c)

/-- The text after the quote that closes a literal, none if it stays open. -/
def afterQuoted (quote : Char) : List Char → Option (List Char)
  | [] => none
  | '\\' :: rest =>
      match rest with
      | [] => none
      | _ :: rest => afterQuoted quote rest
  | c :: rest => if c = quote then some rest else afterQuoted quote rest

theorem length_dropRun_le (c : Char) (cs : List Char) : (dropRun c cs).length ≤ cs.length :=
  (List.dropWhile_suffix _).length_le

theorem length_afterQuoted_lt {quote : Char} {cs rest : List Char}
    (h : afterQuoted quote cs = some rest) : rest.length < cs.length := by
  fun_induction afterQuoted quote cs with
  | case1 => cases h
  | case2 => cases h
  | case3 c tail ih =>
      have := ih h
      simp only [List.length_cons]
      omega
  | case4 tail =>
      cases h
      simp
  | case5 c tail _ _ ih =>
      have := ih h
      simp only [List.length_cons]
      omega

end ResourceAudit.Pattern
