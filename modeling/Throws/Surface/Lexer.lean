import Throws.Surface.Terminal

/-!
# Tokens

How the characters of a text make up tokens. Blanks and comments may stand between any two tokens.
`scan` finds the token at the beginning of a text among the terminals that are looked for there. A
word is a keyword if that keyword is looked for, and a name otherwise; where no name is looked for,
a keyword need not end with its word. Of several signs the longest counts.
-/

namespace Throws.Surface

/-- A position in a text: line and column, both counted from one. -/
structure Pos where
  /-- Line. -/
  line : Nat := 1
  /-- Column, in characters. -/
  column : Nat := 1
deriving DecidableEq, Inhabited

namespace Pos

/-- The position behind a character. -/
def next (pos : Pos) (c : Char) : Pos :=
  if c = '\n' then { line := pos.line + 1, column := 1 } else { pos with column := pos.column + 1 }

/-- The position behind several characters. -/
def after (pos : Pos) (cs : List Char) : Pos := cs.foldl next pos

end Pos

/-- Whether a character may stand between tokens. -/
def isBlank (c : Char) : Bool :=
  c == ' ' || c == '\t' || c == '\n' || c == '\r' || c == '\x0c'

/-- Whether a word may begin with the character. -/
def isWordStart (c : Char) : Bool := c.isAlpha || c == '_'

/-- Whether the character may stand in a word. -/
def isWordPart (c : Char) : Bool := c.isAlphanum || c == '_'

/-- Where in the space between two tokens a character stands. -/
inductive Gap where
  /-- Outside of comments. -/
  | plain
  /-- In a comment up to the end of the line. -/
  | line
  /-- In a comment up to its closing sign. -/
  | block

/-- Whether a comment that has been opened is closed later on. -/
def closes : List Char → Bool
  | '*' :: '/' :: _ => true
  | _ :: cs => closes cs
  | [] => false

/-- Skips blanks and comments. A comment that is never closed is none. -/
def skip : Gap → Pos → List Char → Pos × List Char
  | .plain, pos, '/' :: '/' :: cs => skip .line (pos.after ['/', '/']) cs
  | .plain, pos, '/' :: '*' :: cs =>
    if closes cs then skip .block (pos.after ['/', '*']) cs else (pos, '/' :: '*' :: cs)
  | .plain, pos, c :: cs => if isBlank c then skip .plain (pos.next c) cs else (pos, c :: cs)
  | .line, pos, c :: cs => skip (if c = '\n' then .plain else .line) (pos.next c) cs
  | .block, pos, '*' :: '/' :: cs => skip .plain (pos.after ['*', '/']) cs
  | .block, pos, c :: cs => skip .block (pos.next c) cs
  | _, pos, [] => (pos, [])

/-- What is left of a text in quotes behind its opening quote, up to the closing one. A quote
behind a backslash does not close it, and it ends on its line. -/
def stringTail : List Char → Option (List Char)
  | '"' :: _ => some ['"']
  | '\\' :: c :: cs => if c = '\n' then none else (stringTail cs).map fun rest => '\\' :: c :: rest
  | c :: cs => if c = '\n' then none else (stringTail cs).map (c :: ·)
  | [] => none

/-- The name or keyword at the beginning of a text. -/
def scanWord (sought : List Terminal) (cs : List Char) : Option (Terminal × List Char) :=
  match cs with
  | c :: _ =>
    if sought.contains .name && isWordStart c then
      let word := cs.takeWhile isWordPart
      match Terminal.keywords.find? fun (terminal, spelling) =>
          sought.contains terminal && spelling.toList == word with
      | some (terminal, _) => some (terminal, word)
      | none => some (.name, word)
    else none
  | [] => none

/-- The whole number at the beginning of a text. -/
def scanInt (sought : List Terminal) (cs : List Char) : Option (Terminal × List Char) :=
  match cs with
  | c :: _ =>
    if sought.contains .int && c.isDigit then some (.int, cs.takeWhile Char.isDigit) else none
  | [] => none

/-- The text in quotes at the beginning of a text. -/
def scanString (sought : List Terminal) (cs : List Char) : Option (Terminal × List Char) :=
  match cs with
  | '"' :: rest =>
    if sought.contains .string then (stringTail rest).map fun tail => (.string, '"' :: tail)
    else none
  | _ => none

/-- The keyword or sign at the beginning of a text, the longest one of those sought. -/
def scanFixed (sought : List Terminal) (cs : List Char) : Option (Terminal × List Char) :=
  ((Terminal.keywords ++ Terminal.punctuation).find? fun (terminal, spelling) =>
    sought.contains terminal && spelling.toList.isPrefixOf cs).map
    fun (terminal, spelling) => (terminal, spelling.toList)

/-- The token at the beginning of a text, among the terminals sought. -/
def scan (sought : List Terminal) (cs : List Char) : Option (Terminal × List Char) :=
  ((scanWord sought cs).or (scanInt sought cs)).or
    ((scanString sought cs).or (scanFixed sought cs))

/-- A token: its kind, its text and where it begins. -/
structure Token where
  /-- Kind of token. -/
  terminal : Terminal
  /-- The characters it is made of. -/
  text : List Char
  /-- Where it begins. -/
  pos : Pos := {}
deriving DecidableEq, Inhabited

/-- Why a text is not in the language. -/
inductive SyntaxError where
  /-- A token that cannot stand where it does. -/
  | token (token : Token)
  /-- A character with which no token begins. -/
  | character (c : Char) (pos : Pos)
deriving DecidableEq, Inhabited

/-- A text that has been read up to some token. -/
structure Cursor where
  /-- The tokens read so far, the last one first. -/
  taken : List Token := []
  /-- The next token. -/
  ahead : Token
  /-- The text behind the next token. -/
  rest : List Char
  /-- Where that text begins. -/
  pos : Pos

namespace Cursor

/-- Finds the next token of a text behind the tokens read so far. At the end of the text the token
stands where the last one does. A token that is not sought is an error. -/
def seek (sought : List Terminal) (taken : List Token) (pos : Pos) (cs : List Char) :
    Except SyntaxError Cursor :=
  match skip .plain pos cs with
  | (pos, []) =>
    let last := (taken.head?.map (·.pos)).getD {}
    .ok { taken := taken, ahead := { terminal := .endOfText, text := [], pos := last }, rest := [],
          pos := pos }
  | (pos, c :: cs) =>
    match scan sought (c :: cs) with
    | some (terminal, text) =>
      .ok { taken := taken, ahead := { terminal := terminal, text := text, pos := pos },
            rest := (c :: cs).drop text.length, pos := pos.after text }
    | none => match scan Terminal.all (c :: cs) with
      | some (terminal, text) => .error (.token { terminal := terminal, text := text, pos := pos })
      | none => .error (.character c pos)

/-- A text of which nothing has been read yet. -/
def start (sought : List Terminal) (text : List Char) : Except SyntaxError Cursor :=
  seek sought [] {} text

/-- Reads the next token and finds the one behind it. -/
def advance (sought : List Terminal) (cursor : Cursor) : Except SyntaxError Cursor :=
  seek sought (cursor.ahead :: cursor.taken) cursor.pos cursor.rest

end Cursor

end Throws.Surface
