import Throws.Basic

/-!
# Syntax trees

The tree of a source text, as it is written: types by their spelling, operators by precedence,
statements and handlers in order. Every tree is annotated with locations of some type `ι`; the
reader numbers tokens first and turns the numbers into positions afterwards.
-/

namespace Throws.Surface

/-- The exception clauses of one signature, merged in source order. -/
structure Clauses (ι : Type) where
  /-- Listed names in order; `none` if there is no `throws` clause. -/
  throws : Option (List String) := none
  /-- Whether `...` is listed. -/
  wildcard : Bool := false
  /-- Whether `noexcept` is written. -/
  noexcept : Bool := false
  /-- Location of the first clause. -/
  loc : Option ι := none
deriving DecidableEq, Inhabited

/-- A type as written. -/
inductive TypeExpr (ι : Type) where
  /-- A name with qualifiers. -/
  | named (name : String) (isConst isVolatile isRef : Bool) (loc : ι)
  /-- A function type with the clauses that belong to it. -/
  | function (params : List (TypeExpr ι)) (clauses : Clauses ι) (loc : ι)

/-- Operators with one operand. -/
inductive UnaryOp where
  | minus | bang | tilde
deriving DecidableEq, Inhabited

/-- The spelling of an operator. -/
def UnaryOp.symbol : UnaryOp → String
  | .minus => "-"
  | .bang => "!"
  | .tilde => "~"

/-- Operators with two operands. -/
inductive BinaryOp where
  | or | and | eq | ne | le | ge | lt | gt | plus | minus | star | slash | percent
deriving DecidableEq, Inhabited

/-- The spelling of an operator. -/
def BinaryOp.symbol : BinaryOp → String
  | .or => "||"
  | .and => "&&"
  | .eq => "=="
  | .ne => "!="
  | .le => "<="
  | .ge => ">="
  | .lt => "<"
  | .gt => ">"
  | .plus => "+"
  | .minus => "-"
  | .star => "*"
  | .slash => "/"
  | .percent => "%"

/-- An expression. -/
inductive Expr (ι : Type) where
  | literal (value : Literal) (loc : ι)
  | name (ident : String) (loc : ι)
  | call (function : Expr ι) (args : List (Expr ι)) (loc : ι)
  | unary (op : UnaryOp) (operand : Expr ι) (loc : ι)
  | binary (op : BinaryOp) (left right : Expr ι) (loc : ι)
  | assign (target value : Expr ι) (loc : ι)

/-- The location of an expression. That of a call is the one of the function called. -/
def Expr.loc {ι : Type} : Expr ι → ι
  | .literal _ loc | .name _ loc | .call _ _ loc | .unary _ _ loc | .binary _ _ _ loc
  | .assign _ _ loc => loc

/-- A local variable, with or without a first value. -/
structure LocalDecl (ι : Type) where
  /-- Type as written. -/
  type : TypeExpr ι
  /-- Name of the variable. -/
  name : String
  /-- First value, if there is one. -/
  value : Option (Expr ι)
  /-- Where the declaration begins. -/
  loc : ι

/-- The first part of a `for`. -/
inductive ForInit (ι : Type) where
  | none
  | expr (value : Expr ι) (loc : ι)
  | decl (decl : LocalDecl ι)

mutual

/-- A statement. -/
inductive Stmt (ι : Type) where
  | expr (value : Expr ι) (loc : ι)
  | decl (decl : LocalDecl ι)
  | block (block : Block ι)
  | ret (value : Option (Expr ι)) (loc : ι)
  | throw (value : Expr ι) (loc : ι)
  | rethrow (loc : ι)
  | guarded (body : Block ι) (handlers : List (Handler ι)) (loc : ι)
  | branch (branch : Branch ι)
  | while (condition : Expr ι) (body : Block ι) (loc : ι)
  | doWhile (body : Block ι) (condition : Expr ι) (loc : ι)
  | for (init : ForInit ι) (condition step : Option (Expr ι)) (body : Block ι) (loc : ι)
  | break (loc : ι)
  | continue (loc : ι)
  | empty (loc : ι)

/-- Statements in braces. -/
inductive Block (ι : Type) where
  | mk (statements : List (Stmt ι)) (loc : ι)

/-- A `catch` with the type it names, none for `catch (...)`, and the name of the caught value. -/
inductive Handler (ι : Type) where
  | mk (type : Option (TypeExpr ι)) (binder : Option String) (block : Block ι) (loc : ι)

/-- An `if` with what follows its block. -/
inductive Branch (ι : Type) where
  | mk (condition : Expr ι) (whenTrue : Block ι) (otherwise : Otherwise ι) (loc : ι)

/-- What follows the block of an `if`: nothing, `else` with a block, or `else if`. -/
inductive Otherwise (ι : Type) where
  | none
  | block (block : Block ι)
  | chain (branch : Branch ι)

end

namespace Block

variable {ι : Type}

/-- The statements in the braces. -/
def statements : Block ι → List (Stmt ι)
  | mk statements _ => statements

/-- Where the braces open. -/
def loc : Block ι → ι
  | mk _ loc => loc

end Block

/-- Where the `if` stands. -/
def Branch.loc {ι : Type} : Branch ι → ι
  | mk _ _ _ loc => loc

/-- The declaration of an exception type. -/
structure ExceptionDef (ι : Type) where
  /-- Name of the type. -/
  name : String
  /-- Where the declaration begins. -/
  loc : ι

/-- The declaration of another name for a type. -/
structure AliasDef (ι : Type) where
  /-- The new name. -/
  name : String
  /-- What it stands for. -/
  target : TypeExpr ι
  /-- Where the declaration begins. -/
  loc : ι

/-- A parameter, with or without a name. -/
structure Param (ι : Type) where
  /-- Type as written. -/
  type : TypeExpr ι
  /-- Name of the parameter. -/
  name : Option String

/-- A function: declared, or with a body defined. -/
structure FunctionDef (ι : Type) where
  /-- Name of the function. -/
  name : String
  /-- The parameters. -/
  params : List (Param ι)
  /-- The return type as written. -/
  returnType : TypeExpr ι
  /-- The exception clauses. -/
  clauses : Clauses ι
  /-- The body, if there is one. -/
  body : Option (Block ι)
  /-- Where the name stands. -/
  loc : ι

/-- One declaration at the top of a source text. -/
inductive Item (ι : Type) where
  | exception (exception : ExceptionDef ι)
  | alias (definition : AliasDef ι)
  | function (function : FunctionDef ι)

/-- A whole source text, with its declarations sorted by kind. -/
structure Program (ι : Type) where
  /-- Exception types. -/
  exceptions : List (ExceptionDef ι) := []
  /-- Other names for types. -/
  aliases : List (AliasDef ι) := []
  /-- Functions. -/
  functions : List (FunctionDef ι) := []

/-- Sorts declarations by kind. -/
def Program.ofItems {ι : Type} (items : List (Item ι)) : Program ι where
  exceptions := items.filterMap fun
    | .exception exception => some exception
    | _ => none
  aliases := items.filterMap fun
    | .alias definition => some definition
    | _ => none
  functions := items.filterMap fun
    | .function function => some function
    | _ => none

end Throws.Surface
