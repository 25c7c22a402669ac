import Throws.Surface.Evaluate
import Throws.Surface.Parser
import Throws.Surface.Precedence

/-!
# The grammar

One parser for each construct of the language. A parser looks at the next token to decide how to go
on, so a text is rejected at the first token that cannot be continued to a program. Trees are
located by token numbers.

Parsers take a bound `n` on how often they may call each other without being called from outside.
Whatever a parser does, it takes a token after at most three such calls, so a bound of four times
the length of the text is never reached.
-/

namespace Throws.Surface.Grammar

open Throws.Surface.Parser

variable {ρ : Type}

/-- One exception clause. -/
inductive Clause where
  /-- A list of names, and whether `...` is among them. -/
  | throws (names : List String) (wildcard : Bool) (loc : Nat)
  /-- The word `noexcept`. -/
  | noexcept (loc : Nat)

/-- Puts one more clause in front of merged ones. -/
def Clause.merge (clause : Clause) (rest : Clauses Nat) : Clauses Nat :=
  match clause with
  | .throws names wildcard loc =>
    { rest with
      throws := some (names ++ rest.throws.getD []), wildcard := wildcard || rest.wildcard,
      loc := some loc }
  | .noexcept loc => { rest with noexcept := true, loc := some loc }

/-- Merges the clauses of a signature. -/
def Clause.mergeAll (clauses : List Clause) : Clauses Nat := clauses.foldr merge {}

/-- One entry of a `throws` clause; `none` is `...`. -/
def thrown : Parser ρ (Option String) := do
  match ← peek with
  | .name => return some ((← take Follow.commaOrClose).name)
  | .ellipsis => do
    let _ ← take Follow.commaOrClose
    return none
  | _ => reject

/-- The entries of a `throws` clause behind the first one, up to its parenthesis. -/
def moreThrown : Nat → List (Option String) → Parser ρ (List (Option String))
  | 0, _ => reject
  | n + 1, found => do
    match ← peek with
    | .comma => do
      let _ ← take Follow.thrown
      moreThrown n ((← thrown) :: found)
    | _ => do
      let _ ← expect .rpar Follow.afterClause
      return found.reverse

/-- The entries of a `throws` clause behind its opening parenthesis. -/
def thrownList (n : Nat) : Parser ρ (List (Option String)) := do
  match ← peek with
  | .rpar => do
    let _ ← take Follow.afterClause
    return []
  | _ => moreThrown n [← thrown]

/-- The exception clauses of a signature. -/
def clauses : Nat → List Clause → Parser ρ (Clauses Nat)
  | 0, _ => reject
  | n + 1, found => do
    match ← peek with
    | .kwThrows => do
      let head ← take [.lpar]
      let _ ← expect .lpar Follow.thrownOrClose
      let entries ← thrownList n
      clauses n (.throws (entries.filterMap id) (entries.contains none) head.index :: found)
    | .kwNoexcept => do
      let head ← take Follow.afterClause
      clauses n (.noexcept head.index :: found)
    | _ => return Clause.mergeAll found.reverse

/-- The qualifiers in front of the name of a type, and the number of the token they begin at. -/
structure Qualifiers where
  /-- `const` is among them. -/
  isConst : Bool := false
  /-- `volatile` is among them. -/
  isVolatile : Bool := false
  /-- The first of them. -/
  loc : Option Nat := none

/-- The qualifiers in front of the name of a type. -/
def qualifiers : Nat → Qualifiers → Parser ρ Qualifiers
  | 0, _ => reject
  | n + 1, found => do
    match ← peek with
    | .kwConst => do
      let word ← take Follow.qualified
      qualifiers n { found with isConst := true, loc := found.loc.or (some word.index) }
    | .kwVolatile => do
      let word ← take Follow.qualified
      qualifiers n { found with isVolatile := true, loc := found.loc.or (some word.index) }
    | _ => return found

/-- The sign `&` behind the name of a type, if it is there. -/
def reference : Parser ρ Bool := do
  if (← peek) = .amp then do
    let _ ← take Follow.afterType
    return true
  else return false

/-- A type that is not a function type. -/
def namedType (n : Nat) : Parser ρ (TypeExpr Nat) := do
  let found ← qualifiers n {}
  let name ← expect .name Follow.typeName
  return .named name.name found.isConst found.isVolatile (← reference)
    (found.loc.getD name.index)

mutual

/-- A type. -/
def type : Nat → Parser ρ (TypeExpr Nat)
  | 0 => reject
  | n + 1 => do
    match ← peek with
    | .kwFn => do
      let head ← take [.lpar]
      let _ ← expect .lpar Follow.typeOrClose
      let params ← typeList n
      return .function params (← clauses n []) head.index
    | _ => namedType n

/-- The parameter types of a function type behind its opening parenthesis. -/
def typeList : Nat → Parser ρ (List (TypeExpr Nat))
  | 0 => reject
  | n + 1 => do
    match ← peek with
    | .rpar => do
      let _ ← take Follow.afterFunctionType
      return []
    | _ => moreTypes n [← type n]

/-- The parameter types behind the first one. -/
def moreTypes : Nat → List (TypeExpr Nat) → Parser ρ (List (TypeExpr Nat))
  | 0, _ => reject
  | n + 1, found => do
    match ← peek with
    | .comma => do
      let _ ← take Follow.type
      moreTypes n ((← type n) :: found)
    | _ => do
      let _ ← expect .rpar Follow.afterFunctionType
      return found.reverse

end

/-- The value of a literal; a literal without one is found out later. -/
def valueOf (evaluated : Except LiteralFault Literal) : Literal := evaluated.toOption.getD (.int 0)

mutual

/-- An expression. -/
def expression : Nat → Parser ρ (Operand Nat)
  | 0 => reject
  | n + 1 => do
    let first ← operand n
    return assemble first (← chain n [])

/-- What follows an operand: connectives with operands behind them. -/
def chain : Nat → Chain Nat → Parser ρ (Chain Nat)
  | 0, _ => reject
  | n + 1, found => do
    let terminal ← peek
    if Connective.begins terminal then do
      let sign ← take Follow.operand
      let right ← operand n
      chain n (((Connective.ofToken? terminal sign.text).getD .assign, right) :: found)
    else return found.reverse

/-- An operand with its signs and calls. -/
def operand : Nat → Parser ρ (Operand Nat)
  | 0 => reject
  | n + 1 => do
    match ← peek with
    | .minus => do
      let sign ← take Follow.operand
      return (← operand n).signed sign.index .minus
    | .bang => do
      let sign ← take Follow.operand
      return (← operand n).signed sign.index .bang
    | .tilde => do
      let sign ← take Follow.operand
      return (← operand n).signed sign.index .tilde
    | .int => do
      let token ← take Follow.afterOperand
      calls n (.beginningAt token.index (.literal (valueOf (evalInt token.text)) token.index))
    | .string => do
      let token ← take Follow.afterOperand
      calls n (.beginningAt token.index (.literal (valueOf (evalString token.text)) token.index))
    | .kwTrue => do
      let token ← take Follow.afterOperand
      calls n (.beginningAt token.index (.literal (.bool true) token.index))
    | .kwFalse => do
      let token ← take Follow.afterOperand
      calls n (.beginningAt token.index (.literal (.bool false) token.index))
    | .name => do
      let token ← take Follow.afterOperand
      calls n (.beginningAt token.index (.name token.name token.index))
    | .lpar => do
      let token ← take Follow.operand
      let inner ← expression n
      let _ ← expect .rpar Follow.afterOperand
      calls n (inner.parenthesized token.index)
    | _ => reject

/-- The calls behind an operand. -/
def calls : Nat → Operand Nat → Parser ρ (Operand Nat)
  | 0, _ => reject
  | n + 1, function => do
    if (← peek) = .lpar then do
      let _ ← take Follow.operandOrClose
      let args ← argumentList n
      calls n (function.call args)
    else return function

/-- The arguments of a call behind its opening parenthesis. -/
def argumentList : Nat → Parser ρ (List (Expr Nat))
  | 0 => reject
  | n + 1 => do
    match ← peek with
    | .rpar => do
      let _ ← take Follow.afterOperand
      return []
    | _ => moreArguments n [(← expression n).expr]

/-- The arguments behind the first one. -/
def moreArguments : Nat → List (Expr Nat) → Parser ρ (List (Expr Nat))
  | 0, _ => reject
  | n + 1, found => do
    match ← peek with
    | .comma => do
      let _ ← take Follow.operand
      moreArguments n ((← expression n).expr :: found)
    | _ => do
      let _ ← expect .rpar Follow.afterOperand
      return found.reverse

end

/-- An expression whose first token is a name that has been taken. -/
def expressionFrom (n : Nat) (name : Lexeme) : Parser ρ (Operand Nat) := do
  let first ← calls n (.beginningAt name.index (.name name.name name.index))
  return assemble first (← chain n [])

/-- A local variable behind its type. -/
def declaration (n : Nat) (type : TypeExpr Nat) (loc : Nat) : Parser ρ (LocalDecl Nat) := do
  let name ← expect .name Follow.initializer
  if (← peek) = .equal then do
    let _ ← take Follow.operand
    return ⟨type, name.name, some (← expression n).expr, loc⟩
  else return ⟨type, name.name, none, loc⟩

/-- Where a type begins. -/
def typeLoc : TypeExpr Nat → Nat
  | .named _ _ _ _ loc | .function _ _ loc => loc

/-- A statement that declares a variable or evaluates an expression. -/
inductive Simple where
  /-- A local variable. -/
  | decl (decl : LocalDecl Nat)
  /-- An expression. -/
  | expr (operand : Operand Nat)

/-- A declaration or an expression, up to its semicolon. A name in front may begin either. -/
def simple (n : Nat) : Parser ρ Simple := do
  match ← peek with
  | .name => do
    let name ← take Follow.leadingName
    match ← peek with
    | .name =>
      let type := .named name.name false false false name.index
      return .decl (← declaration n type name.index)
    | .amp => do
      let _ ← take Follow.afterType
      let type := .named name.name false false true name.index
      return .decl (← declaration n type name.index)
    | _ => return .expr (← expressionFrom n name)
  | .kwConst | .kwVolatile | .kwFn => do
    let type ← type n
    return .decl (← declaration n type (typeLoc type))
  | _ => return .expr (← expression n)

/-- An expression that may be left out before the given token. -/
def optional (n : Nat) (stop : Terminal) : Parser ρ (Option (Expr Nat)) := do
  if (← peek) = stop then return none else return some (← expression n).expr

/-- The first part of a `for`. -/
def forInit (n : Nat) : Parser ρ (ForInit Nat) := do
  if (← peek) = .semicolon then return .none
  else match ← simple n with
    | .decl decl => return .decl decl
    | .expr operand => return .expr operand.expr operand.own

/-- The condition of a statement in parentheses, behind which the given terminals are sought. -/
def condition (n : Nat) (sought : List Terminal) : Parser ρ (Expr Nat) := do
  let _ ← expect .lpar Follow.operand
  let operand ← expression n
  let _ ← expect .rpar sought
  return operand.expr

/-- What a `catch` names: a type and perhaps a name for the value, or neither. -/
def caught (n : Nat) : Parser ρ (Option (TypeExpr Nat) × Option String) := do
  if (← peek) = .ellipsis then do
    let _ ← take [.rpar]
    return (none, none)
  else do
    let type ← type n
    if (← peek) = .name then
      return (some type, some ((← take [.rpar]).name))
    else return (some type, none)

mutual

/-- A block. -/
def block : Nat → Parser ρ (Block Nat)
  | 0 => reject
  | n + 1 => do
    let open_ ← expect .lbrace Follow.statement
    let statements ← statements n []
    return .mk statements open_.index

/-- The statements of a block, up to its closing brace. -/
def statements : Nat → List (Stmt Nat) → Parser ρ (List (Stmt Nat))
  | 0, _ => reject
  | n + 1, found => do
    if (← peek) = .rbrace then do
      let _ ← take Follow.afterBlock
      return found.reverse
    else statements n ((← statement n) :: found)

/-- A statement. -/
def statement : Nat → Parser ρ (Stmt Nat)
  | 0 => reject
  | n + 1 => do
    match ← peek with
    | .lbrace => return .block (← block n)
    | .semicolon => return .empty (← take Follow.statement).index
    | .kwReturn => do
      let head ← take Follow.operandOrSemicolon
      let value ← optional n .semicolon
      let _ ← expect .semicolon Follow.statement
      return .ret value head.index
    | .kwThrow => do
      let head ← take Follow.operandOrSemicolon
      let value ← optional n .semicolon
      let _ ← expect .semicolon Follow.statement
      match value with
      | some value => return .throw value head.index
      | none => return .rethrow head.index
    | .kwTry => do
      let head ← take [.lbrace]
      let body ← block n
      let first ← handler n
      return .guarded body (← handlers n [first]) head.index
    | .kwIf => return .branch (← branch n)
    | .kwWhile => do
      let head ← take [.lpar]
      let condition ← condition n [.lbrace]
      return .while condition (← block n) head.index
    | .kwDo => do
      let head ← take [.lbrace]
      let body ← block n
      let _ ← expect .kwWhile [.lpar]
      let condition ← condition n [.semicolon]
      let _ ← expect .semicolon Follow.statement
      return .doWhile body condition head.index
    | .kwFor => do
      let head ← take [.lpar]
      let _ ← expect .lpar Follow.forInit
      let init ← forInit n
      let _ ← expect .semicolon Follow.operandOrSemicolon
      let condition ← optional n .semicolon
      let _ ← expect .semicolon Follow.operandOrClose
      let step ← optional n .rpar
      let _ ← expect .rpar [.lbrace]
      return .for init condition step (← block n) head.index
    | .kwBreak => do
      let head ← take [.semicolon]
      let _ ← expect .semicolon Follow.statement
      return .break head.index
    | .kwContinue => do
      let head ← take [.semicolon]
      let _ ← expect .semicolon Follow.statement
      return .continue head.index
    | _ => do
      let inner ← simple n
      let _ ← expect .semicolon Follow.statement
      match inner with
      | .decl decl => return .decl decl
      | .expr operand => return .expr operand.expr operand.start

/-- A handler. -/
def handler : Nat → Parser ρ (Handler Nat)
  | 0 => reject
  | n + 1 => do
    let head ← expect .kwCatch [.lpar]
    let _ ← expect .lpar Follow.caught
    let (type, binder) ← caught n
    let _ ← expect .rpar [.lbrace]
    return .mk type binder (← block n) head.index

/-- The handlers behind the first one. -/
def handlers : Nat → List (Handler Nat) → Parser ρ (List (Handler Nat))
  | 0, _ => reject
  | n + 1, found => do
    if (← peek) = .kwCatch then handlers n ((← handler n) :: found) else return found.reverse

/-- An `if`. -/
def branch : Nat → Parser ρ (Branch Nat)
  | 0 => reject
  | n + 1 => do
    let head ← expect .kwIf [.lpar]
    let condition ← condition n [.lbrace]
    let whenTrue ← block n
    return .mk condition whenTrue (← otherwise n) head.index

/-- What follows the block of an `if`. -/
def otherwise : Nat → Parser ρ (Otherwise Nat)
  | 0 => reject
  | n + 1 => do
    if (← peek) = .kwElse then do
      let _ ← take Follow.otherwise
      if (← peek) = .kwIf then return .chain (← branch n) else return .block (← block n)
    else return .none

end

/-- A parameter of a function. -/
def param (n : Nat) : Parser ρ (Param Nat) := do
  let type ← type n
  if (← peek) = .name then return ⟨type, some ((← take Follow.commaOrClose).name)⟩
  else return ⟨type, none⟩

/-- The parameters of a function behind the first one. -/
def moreParams : Nat → List (Param Nat) → Parser ρ (List (Param Nat))
  | 0, _ => reject
  | n + 1, found => do
    match ← peek with
    | .comma => do
      let _ ← take Follow.type
      moreParams n ((← param n) :: found)
    | _ => do
      let _ ← expect .rpar Follow.afterParams
      return found.reverse

/-- The parameters of a function behind their opening parenthesis. -/
def paramList (n : Nat) : Parser ρ (List (Param Nat)) := do
  match ← peek with
  | .rpar => do
    let _ ← take Follow.afterParams
    return []
  | _ => moreParams n [← param n]

/-- A function. -/
def function (n : Nat) : Parser ρ (FunctionDef Nat) := do
  let returnType ← type n
  let name ← expect .name [.lpar]
  let _ ← expect .lpar Follow.typeOrClose
  let params ← paramList n
  let clauses ← clauses n []
  if (← peek) = .semicolon then do
    let _ ← take Follow.item
    return ⟨name.name, params, returnType, clauses, none, name.index⟩
  else return ⟨name.name, params, returnType, clauses, some (← block n), name.index⟩

/-- A declaration at the top of a text. -/
def item (n : Nat) : Parser ρ (Item Nat) := do
  match ← peek with
  | .kwException => do
    let head ← take [.name]
    let name ← expect .name [.semicolon]
    let _ ← expect .semicolon Follow.item
    return .exception ⟨name.name, head.index⟩
  | .kwUsing => do
    let head ← take [.name]
    let name ← expect .name [.equal]
    let _ ← expect .equal Follow.type
    let target ← type n
    let _ ← expect .semicolon Follow.item
    return .alias ⟨name.name, target, head.index⟩
  | _ => return .function (← function n)

/-- The declarations of a text, up to its end. -/
def items : Nat → List (Item Nat) → Parser ρ (List (Item Nat))
  | 0, _ => reject
  | n + 1, found => do
    if (← peek) = .endOfText then return found.reverse else items n ((← item n) :: found)

/-- The plan for reading a whole text. -/
def program (n : Nat) : Plan (List (Item Nat)) := items n [] .done

end Throws.Surface.Grammar
