import Throws.Surface.Lexer

/-!
# Parsers

A `Plan` says how to read a text: look at the kind of the next token, take it and go on, or give
up. A plan sees of a token only its text and its number in the text, so what it makes of a text
depends on nothing but the tokens. Each token that is taken names the terminals that are sought
behind it, because the tokens of the language depend on their place.

A `Parser` is a plan with an open end. Parsers are written with `do`, and a parser that goes on with
`k` is carried out by `Plan.run` on a cursor.
-/

namespace Throws.Surface

/-- What a plan sees of a token. -/
structure Lexeme where
  /-- The number of tokens before it. -/
  index : Nat
  /-- The characters it is made of. -/
  text : List Char
deriving DecidableEq, Inhabited

/-- The text of a token as a name. -/
def Lexeme.name (lexeme : Lexeme) : String := String.ofList lexeme.text

/-- A way to read a text that ends with a result of type `ρ`. -/
inductive Plan (ρ : Type) where
  /-- Reading is finished. -/
  | done (result : ρ)
  /-- The next token cannot stand where it does. -/
  | reject
  /-- Go on depending on the kind of the next token. -/
  | look (next : Terminal → Plan ρ)
  /-- Take the next token; behind it the given terminals are sought. -/
  | take (sought : List Terminal) (next : Lexeme → Plan ρ)

/-- Carries out a plan on a text of which `index` tokens have been taken. The result comes with all
tokens taken, the last one first. -/
def Plan.run {ρ : Type} : Plan ρ → Nat → Cursor → Except SyntaxError (ρ × List Token)
  | .done result, _, cursor => .ok (result, cursor.taken)
  | .reject, _, cursor => .error (.token cursor.ahead)
  | .look next, index, cursor => (next cursor.ahead.terminal).run index cursor
  | .take sought next, index, cursor =>
    match cursor.advance sought with
    | .ok after => (next { index := index, text := cursor.ahead.text }).run (index + 1) after
    | .error error => .error error

/-- A plan that still has to be told how to go on with its value. -/
def Parser (ρ α : Type) : Type := (α → Plan ρ) → Plan ρ

namespace Parser

variable {ρ α : Type}

instance : Monad (Parser ρ) where
  pure a := fun k => k a
  bind parser next := fun k => parser fun a => next a k

/-- The kind of the next token. -/
def peek : Parser ρ Terminal := Plan.look

/-- Takes the next token, whatever it is. -/
def take (sought : List Terminal) : Parser ρ Lexeme := Plan.take sought

/-- The next token cannot stand where it does. -/
def reject : Parser ρ α := fun _ => .reject

/-- Takes the next token, which has to be of the given kind. -/
def expect (terminal : Terminal) (sought : List Terminal) : Parser ρ Lexeme := do
  if (← peek) = terminal then take sought else reject

end Parser

end Throws.Surface
