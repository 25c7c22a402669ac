import Throws.Diagnostic
import Throws.Surface.Grammar
import Throws.Surface.Nesting
import Throws.Surface.Relocate
import Throws.Text.Quoted

/-!
# Reading a source text

`read` turns a text into its syntax tree. A text can fail to be in the language, it can have a
literal without a value, and it can be nested too deeply. The first of these comes first: literals
and nesting are looked at only once the whole text has been read. Of the other two, what is met
first on the way through the tree decides.
-/

namespace Throws.Surface

/-- The wording of a syntax error, cut at the end of its first line. -/
def SyntaxError.message : SyntaxError → String
  | .token found => Text.firstLine ("Unexpected token Token(" ++
      Text.quoted found.terminal.label.toList ++ ", " ++ Text.quoted found.text ++ ") at line "
      ++ toString found.pos.line ++ ", column " ++ toString found.pos.column ++ ".")
  | .character c pos => Text.firstLine ("No terminal matches '" ++ String.singleton c
      ++ "' in the current parser context, at line " ++ toString pos.line ++ " col "
      ++ toString pos.column)

/-- Where a syntax error is. -/
def SyntaxError.pos : SyntaxError → Pos
  | .token found => found.pos
  | .character _ pos => pos

/-- Why a text cannot be read. -/
inductive ReadError where
  /-- It is not in the language. -/
  | rejected (error : SyntaxError)
  /-- One of its literals has no value. -/
  | literal (fault : LiteralFault)
  /-- It is nested too deeply. -/
  | tooDeep
deriving DecidableEq, Inhabited

/-- What is wrong with a literal. -/
def Token.fault? (token : Token) : Option LiteralFault :=
  let evaluated := match token.terminal with
    | .int => evalInt token.text
    | .string => evalString token.text
    | _ => .ok (.bool true)
  match evaluated with
  | .ok _ => none
  | .error fault => some fault

/-- A bound for the grammar that no text of the given length reaches. -/
def bound (length : Nat) : Nat := 4 * length + 16

/-- The declarations of a text, located by token numbers, and its tokens in order. -/
def parse (text : List Char) : Except SyntaxError (List (Item Nat) × Array Token) := do
  let cursor ← Cursor.start Follow.item text
  let (items, taken) ← (Grammar.program (bound text.length)).run 0 cursor
  return (items, taken.reverse.toArray)

/-- What is wrong with the token of the given number. -/
def faultAt (tokens : Array Token) (index : Nat) : Option LiteralFault :=
  tokens[index]?.bind Token.fault?

/-- The position of the token of the given number. -/
def positionAt (tokens : Array Token) (index : Nat) : Pos :=
  (tokens[index]?.map (·.pos)).getD {}

/-- The tree of a source text, if it is not deeper than the given number of levels. -/
def read (depth : Option Nat) (text : String) : Except ReadError (Program Pos) :=
  match parse text.toList with
  | .error error => .error (.rejected error)
  | .ok (items, tokens) =>
    let reading := (trailOfItems (faultAt tokens) items).upTo depth
    match reading.events.head? with
    | some fault => .error (.literal fault)
    | none =>
      if reading.isComplete then .ok ((Program.ofItems items).mapLoc (positionAt tokens))
      else .error .tooDeep

end Throws.Surface
