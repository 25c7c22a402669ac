import Throws.Surface.Lexer
import Throws.Surface.Tree

/-!
# Precedence

An expression is read as operands with operators between them; `assemble` makes the tree. Operators
bind according to their level, `=` loosest of all. Those of one level group to the left, except for
`=`, which groups to the right.
-/

namespace Throws.Surface

/-- An expression together with where it begins. A parenthesis around an expression does not move
the expression itself, but what encloses it begins at the parenthesis. -/
structure Operand (ι : Type) where
  /-- The expression. -/
  expr : Expr ι
  /-- Where the expression begins, parentheses around it apart. -/
  own : ι
  /-- Where the expression begins, parentheses included. -/
  start : ι

namespace Operand

variable {ι : Type}

/-- An expression that begins with the given token. -/
def beginningAt (loc : ι) (expr : Expr ι) : Operand ι := ⟨expr, loc, loc⟩

/-- The expression in parentheses that open at `loc`. -/
def parenthesized (loc : ι) (operand : Operand ι) : Operand ι := { operand with start := loc }

/-- A call of the expression. -/
def call (function : Operand ι) (args : List (Expr ι)) : Operand ι :=
  .beginningAt function.start (.call function.expr args function.expr.loc)

/-- The expression with an operator in front of it that stands at `loc`. -/
def signed (loc : ι) (op : UnaryOp) (operand : Operand ι) : Operand ι :=
  .beginningAt loc (.unary op operand.expr loc)

end Operand

/-- What stands between two operands. -/
inductive Connective where
  /-- An operator with two operands. -/
  | operator (op : BinaryOp)
  /-- The sign `=`. -/
  | assign
deriving DecidableEq, Inhabited

namespace Connective

/-- The connective spelled by a token of the given kind. -/
def ofToken? (terminal : Terminal) (text : List Char) : Option Connective :=
  match terminal with
  | .equal => some .assign
  | .orOp => some (.operator .or)
  | .andOp => some (.operator .and)
  | .eqOp => some (.operator (if text = ['=', '='] then .eq else .ne))
  | .cmpOp => some (.operator
      (if text = ['<', '='] then .le
        else if text = ['>', '='] then .ge
        else if text = ['<'] then .lt
        else .gt))
  | .plus => some (.operator .plus)
  | .minus => some (.operator .minus)
  | .star => some (.operator .star)
  | .slash => some (.operator .slash)
  | .percent => some (.operator .percent)
  | _ => none

/-- Whether a token of the given kind is a connective. -/
def begins (terminal : Terminal) : Bool := (ofToken? terminal []).isSome

/-- How tightly a connective binds; a greater level binds more tightly. -/
def level : Connective → Nat
  | .assign => 0
  | .operator .or => 1
  | .operator .and => 2
  | .operator .eq | .operator .ne => 3
  | .operator .le | .operator .ge | .operator .lt | .operator .gt => 4
  | .operator .plus | .operator .minus => 5
  | .operator .star | .operator .slash | .operator .percent => 6

/-- Every connective binds less tightly than this. -/
def levels : Nat := 7

variable {ι : Type}

/-- Two operands joined by a connective. -/
def join (connective : Connective) (left right : Operand ι) : Operand ι :=
  match connective with
  | .operator op => .beginningAt left.start (.binary op left.expr right.expr left.start)
  | .assign => .beginningAt left.start (.assign left.expr right.expr left.start)

end Connective

/-- Operands with connectives between them. -/
abbrev Chain (ι : Type) : Type := List (Connective × Operand ι)

variable {ι : Type}

/-- Cuts a chain before each connective of the given level: what comes before the first of them,
and for each of them the operand behind it with what belongs to that. -/
def splitAtLevel (level : Nat) :
    Chain ι → Chain ι × List (Connective × Operand ι × Chain ι)
  | [] => ([], [])
  | (connective, operand) :: rest =>
    let (front, parts) := splitAtLevel level rest
    if connective.level = level then ([], (connective, operand, front) :: parts)
    else ((connective, operand) :: front, parts)

/-- Joins operands from left to right. -/
def groupLeft (first : Operand ι) (rest : Chain ι) : Operand ι :=
  rest.foldl (fun left (connective, right) => connective.join left right) first

/-- Joins operands from right to left. -/
def groupRight (first : Operand ι) : Chain ι → Operand ι
  | [] => first
  | (connective, operand) :: rest => connective.join first (groupRight operand rest)

/-- Joins the operands of a chain whose connectives are of the given level at least, where `count`
is how many levels there are from there on. -/
def assembleFrom : (count level : Nat) → Operand ι → Chain ι → Operand ι
  | 0, _, first, _ => first
  | count + 1, level, first, rest =>
    let (front, parts) := splitAtLevel level rest
    let head := assembleFrom count (level + 1) first front
    let tail := parts.map fun (connective, operand, more) =>
      (connective, assembleFrom count (level + 1) operand more)
    if level = 0 then groupRight head tail else groupLeft head tail

/-- The tree of an expression. -/
def assemble (first : Operand ι) (rest : Chain ι) : Operand ι :=
  assembleFrom Connective.levels 0 first rest

end Throws.Surface
