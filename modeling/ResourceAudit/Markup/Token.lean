import ResourceAudit.Markup.Declarations

/-!
# Tokens

The tokens outside element content: those of the document type, and what may
stand between it and the elements. Comments and processing instructions are the
same everywhere.
-/

namespace ResourceAudit.Markup

/-- What a word could be. -/
inductive WordKind
  | name
  | prefixedName
  | nameToken
deriving DecidableEq, Repr

inductive Token
  | word (text : String) (kind : WordKind)
  /-- A name with `?`, `*` or `+` at its end. -/
  | repeated
  | keyword (text : String)
  | literal (text : List Char)
  | percent
  | parameterReference
  | openParen
  | closeParen (repetition : Option Char)
  | openBracket
  | closeBracket
  | comma
  | bar
  | close
  | declaration (keyword : String)
  | conditionalOpen
  | conditionalClose
  | comment
  | instruction
  | xmlDeclaration
  /-- The start of an element: the first character of its name. -/
  | elementStart (first : Char)
deriving DecidableEq, Repr

/-- The body of a processing instruction. -/
structure Instruction where
  isXmlDeclaration : Bool
  body : List Char
deriving DecidableEq, Repr

namespace Token

/-- The fault of a token where it is not expected. -/
def unexpected : Token → Fault
  | parameterReference => .illegalParameterReference
  | xmlDeclaration => .misplacedDeclaration
  | _ => .syntaxError

/-- A comment after its first hyphen. -/
def readComment : Reader Unit := do
  Reader.expect '-'
  let _ ← Reader.upTo ['-', '-'] .unclosedToken
  Reader.expect '>'

/-- Whether a target names the XML declaration; any other spelling of it is
refused. -/
def isXmlTarget (target : String) : Except Fault Bool :=
  if target = "xml" then .ok true
  else if target.toLower = "xml" then .error .invalidToken
  else .ok false

/-- A processing instruction after its question mark. -/
def readInstruction : Reader Instruction := do
  let target ← Reader.name
  let c ← Reader.peek
  if isSeparator c then
    let isXmlDeclaration ← Reader.lift (isXmlTarget target)
    return ⟨isXmlDeclaration, ← Reader.upTo ['?', '>'] .unclosedToken⟩
  else if c = '?' then
    let isXmlDeclaration ← Reader.lift (isXmlTarget target)
    let _ ← Reader.next
    Reader.expect '>'
    return ⟨isXmlDeclaration, []⟩
  else Reader.fail .invalidToken

/-- Refuses the next character unless the text ends or it is of a kind. -/
def followedBy (p : Char → Bool) : Reader Unit := do
  if ← Reader.atEnd then return
  if p (← Reader.peek) then return
  Reader.fail .invalidToken

def isWordChar (c : Char) : Bool :=
  isNameChar c || c == ':'

/-- The kind of a word: a name without colon, a name with one colon inside, or
less than a name. -/
def kindOf (word : List Char) : WordKind :=
  match word with
  | [] => .nameToken
  | first :: rest =>
      if !isNameStart first then .nameToken
      else match rest.dropWhile (· ≠ ':') with
        | [] => .name
        | [_] => .nameToken
        | _ :: tail => if tail.contains ':' then .nameToken else .prefixedName

/-- Whether a word breaks off after the colon of a prefix. -/
def endsInPrefix (word : List Char) : Bool :=
  word.head?.any isNameStart && word.getLast? = some ':' && !word.dropLast.contains ':'

/-- A word whose first character has been read. -/
def readWord (first : Char) : Reader Token := do
  let word := first :: (← Reader.takeWhile isWordChar)
  let kind := kindOf word
  if ← Reader.atEnd then
    if endsInPrefix word then Reader.fail .unclosedToken
    return .word (String.ofList word) kind
  let c ← Reader.peek
  if isSeparator c || ['>', ')', ',', '|', '[', '%'].contains c then
    return .word (String.ofList word) kind
  else if ['?', '*', '+'].contains c && kind ≠ .nameToken then
    let _ ← Reader.next
    return .repeated
  else Reader.fail .invalidToken

/-- A quoted literal after its opening quote. -/
def readLiteral (quote : Char) : Reader Token := do
  let text ← Reader.upTo [quote] .unclosedToken
  followedBy fun c => isSeparator c || ['>', '%', '['].contains c
  return .literal text

/-- A reference to a parameter entity after its percent sign, or the sign
alone. -/
def readPercent : Reader Token := do
  let c ← Reader.peek
  if isSeparator c || c = '%' then return .percent
  let _ ← Reader.name
  Reader.expect ';'
  return .parameterReference

/-- A keyword after its number sign. -/
def readKeyword : Reader Token := do
  let text ← Reader.name
  followedBy fun c => isSeparator c || [')', '>', '%', '|'].contains c
  return .keyword text

/-- A closing parenthesis with the sign that may repeat its group. -/
def readCloseParen : Reader Token := do
  if ← Reader.atEnd then return .closeParen none
  let c ← Reader.peek
  if ['?', '*', '+'].contains c then
    let _ ← Reader.next
    return .closeParen (some c)
  else if isSeparator c || ['>', ',', '|', ')'].contains c then return .closeParen none
  else Reader.fail .invalidToken

/-- What follows `<!` outside elements. -/
def readExclamation : Reader Token := do
  let c ← Reader.next
  if c = '-' then
    readComment
    return .comment
  else if c = '[' then return .conditionalOpen
  else if isDeclarationChar c then
    let word := c :: (← Reader.takeWhile isDeclarationChar)
    let after ← Reader.peek
    if isSeparator after || after = '%' then return .declaration (String.ofList word)
    Reader.fail .invalidToken
  else Reader.fail .invalidToken
where
  isDeclarationChar (c : Char) : Bool := c.isAlpha || c == '_'

/-- What follows `<` outside elements. -/
def readMarkup : Reader Token := do
  let c ← Reader.next
  if c = '!' then readExclamation
  else if c = '?' then
    let instruction ← readInstruction
    return if instruction.isXmlDeclaration then .xmlDeclaration else .instruction
  else if isNameStart c then return .elementStart c
  else Reader.fail .invalidToken

/-- The next token. The text must not end before it. -/
def read : Reader Token := do
  let _ ← Reader.skipSeparators
  if ← Reader.atEnd then Reader.fail .noElement
  let c ← Reader.next
  if c = '<' then readMarkup
  else if c = '"' || c = '\'' then readLiteral c
  else if c = '%' then readPercent
  else if c = '#' then readKeyword
  else if c = '(' then return .openParen
  else if c = ')' then readCloseParen
  else if c = '[' then return .openBracket
  else if c = ']' then
    if ← Reader.sees [']'] then
      if !(← Reader.holds 2) then Reader.fail .unclosedToken
      if ← Reader.sees [']', '>'] then
        let _ ← Reader.next
        let _ ← Reader.next
        return .conditionalClose
    return .closeBracket
  else if c = ',' then return .comma
  else if c = '|' then return .bar
  else if c = '>' then return .close
  else if isWordChar c then readWord c
  else Reader.fail .invalidToken

end Token

end ResourceAudit.Markup
