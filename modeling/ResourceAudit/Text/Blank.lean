/-!
# Blank characters

Whitespace as names, comments and type names understand it, and the trimming
built on it. Format items use a narrower rule of their own: only U+0020 counts
inside them.
-/

namespace ResourceAudit.Text

/-- Unicode whitespace together with the four separator controls U+001C to
U+001F. -/
def isBlank (c : Char) : Bool :=
  let n := c.toNat
  (0x09 ≤ n && n ≤ 0x0D) || (0x1C ≤ n && n ≤ 0x20) || n == 0x85 || n == 0xA0 ||
    n == 0x1680 || (0x2000 ≤ n && n ≤ 0x200A) || n == 0x2028 || n == 0x2029 ||
    n == 0x202F || n == 0x205F || n == 0x3000

/-- The text after its leading blanks. -/
def dropBlank (cs : List Char) : List Char :=
  cs.dropWhile isBlank

/-- The text before its trailing blanks. -/
def dropBlankEnd (cs : List Char) : List Char :=
  (cs.reverse.dropWhile isBlank).reverse

/-- The text without blanks at either end. -/
def trim (cs : List Char) : List Char :=
  dropBlankEnd (dropBlank cs)

/-- The text without any blank. -/
def withoutBlank (cs : List Char) : List Char :=
  cs.filter (!isBlank ·)

def allBlank (cs : List Char) : Bool :=
  cs.all isBlank

/-- A string without blanks at either end. -/
def strip (s : String) : String :=
  String.ofList (trim s.toList)

@[simp]
theorem dropBlank_nil : dropBlank [] = [] := rfl

theorem dropBlank_cons (c : Char) (cs : List Char) :
    dropBlank (c :: cs) = if isBlank c then dropBlank cs else c :: cs := by
  simp [dropBlank, List.dropWhile_cons]

theorem dropBlank_append_of_allBlank {w : List Char} (hw : allBlank w) (cs : List Char) :
    dropBlank (w ++ cs) = dropBlank cs := by
  induction w with
  | nil => rfl
  | cons c w ih =>
      simp only [allBlank, List.all_cons, Bool.and_eq_true] at hw
      rw [List.cons_append, dropBlank_cons, if_pos hw.1]
      exact ih hw.2

theorem length_dropBlank_le (cs : List Char) : (dropBlank cs).length ≤ cs.length :=
  (List.dropWhile_suffix _).length_le

end ResourceAudit.Text
