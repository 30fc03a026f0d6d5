/-!
# Pieces of a text

Cutting a text at every occurrence of a separator, or at the first one, and
cutting it at positions that may count from its end.
-/

namespace ResourceAudit.Text

/-- The first piece and the pieces after each separator. -/
def cut (separator : Char) : List Char → List Char × List (List Char)
  | [] => ([], [])
  | c :: rest =>
      let (piece, pieces) := cut separator rest
      if c = separator then ([], piece :: pieces) else (c :: piece, pieces)

/-- The pieces between separators. A text without a separator is one piece. -/
def pieces (separator : Char) (cs : List Char) : List (List Char) :=
  (cut separator cs).1 :: (cut separator cs).2

/-- The pieces of a string between separators. -/
def splitAt (separator : Char) (s : String) : List String :=
  (pieces separator s.toList).map String.ofList

/-- The text before the first stop, if there is one. -/
def before? (stop : Char) : List Char → Option (List Char)
  | [] => none
  | c :: rest => if c = stop then some [] else (before? stop rest).map (c :: ·)

/-- The text before the last stop and the text after it, if there is one. -/
def aroundLast? (stop : Char) (cs : List Char) : Option (List Char × List Char) :=
  (before? stop cs.reverse).map fun tail =>
    (cs.take (cs.length - tail.length - 1), tail.reverse)

/-- The offset a position denotes in a text of the given length. A negative
position counts from the end, and every offset lies within the text. -/
def offset (length : Nat) (position : Int) : Nat :=
  min length (if position < 0 then position + length else position).toNat

/-- The text between two positions. -/
def slice (start stop : Int) (cs : List Char) : List Char :=
  (cs.take (offset cs.length stop)).drop (offset cs.length start)

@[simp]
theorem pieces_nil (separator : Char) : pieces separator [] = [[]] := rfl

theorem pieces_ne_nil (separator : Char) (cs : List Char) : pieces separator cs ≠ [] := by
  simp [pieces]

/-- Joining the pieces with the separator restores the text. -/
theorem intercalate_pieces (separator : Char) (cs : List Char) :
    List.intercalate [separator] (pieces separator cs) = cs := by
  induction cs with
  | nil => rfl
  | cons c rest ih =>
      by_cases h : c = separator
      · subst h
        rw [pieces] at ih
        simpa [pieces, cut, List.intercalate, List.intersperse] using ih
      · cases hcut : cut separator rest with
        | mk piece others =>
            rw [pieces, hcut] at ih
            cases others <;>
              simp_all [pieces, cut, List.intercalate, List.intersperse]

end ResourceAudit.Text
