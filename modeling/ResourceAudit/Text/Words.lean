import ResourceAudit.Text.Pieces

/-!
# Lines of words

Tables are kept as lines of words with blanks between them. A word of a mapping joins a key and
its value by an equals sign.
-/

namespace ResourceAudit.Text

/-- The words of lines. -/
def wordsOf (lines : List String) : List String :=
  lines.flatMap (splitAt ' ')

/-- The key and the value of a word. -/
def pairOf (word : String) : Option (String × String) :=
  match splitAt '=' word with
  | [key, value] => some (key, value)
  | _ => none

def mappingOf (lines : List String) : List (String × String) :=
  (wordsOf lines).filterMap pairOf

end ResourceAudit.Text
