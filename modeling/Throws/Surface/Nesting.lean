import Throws.Surface.Tree
import Throws.Trail

/-!
# Nesting of syntax trees

Going through a program meets its literals one after the other, each at some depth. Every construct
takes a fixed number of levels: one for an operator, two for an argument, three for a function type,
four for a statement inside of a block. The events on the trail of a program are literals, those
that count and in the form in which they count. With the faults of literals as events, the trail
tells whether one of them is met before the program gets too deep.

Whether a literal is an event, and which one, is looked up by its location.
-/

namespace Throws.Surface

variable {ι ε : Type}

mutual

/-- The trail of a type. There are no literals in types. -/
def TypeExpr.trail : TypeExpr ι → Trail ε
  | .named _ _ _ _ _ => .deeper 1 .empty
  | .function params _ _ => .deeper 3 (trailOfTypes params)

/-- The trail of several types. -/
def trailOfTypes : List (TypeExpr ι) → Trail ε
  | [] => .empty
  | type :: rest => .append type.trail (trailOfTypes rest)

end

section

variable (event? : ι → Option ε)

/-- The trail of a literal at a location. -/
def trailOfLiteral (loc : ι) : Trail ε :=
  match event? loc with
  | none => .empty
  | some met => .event met

mutual

/-- The trail of an expression. -/
def Expr.trail : Expr ι → Trail ε
  | .literal _ loc => .deeper 1 (trailOfLiteral event? loc)
  | .name _ _ => .deeper 1 .empty
  | .call function args _ => .deeper 1 (.append function.trail (.deeper 1 (trailOfExprs args)))
  | .unary _ operand _ => .deeper 1 operand.trail
  | .binary _ left right _ => .deeper 1 (.append left.trail right.trail)
  | .assign target value _ => .deeper 1 (.append target.trail value.trail)

/-- The trail of several expressions. -/
def trailOfExprs : List (Expr ι) → Trail ε
  | [] => .empty
  | expr :: rest => .append expr.trail (trailOfExprs rest)

end

/-- The trail of an expression that may be left out. -/
def trailOfOptional : Option (Expr ι) → Trail ε
  | none => .empty
  | some expr => expr.trail event?

/-- The trail of a local variable. -/
def LocalDecl.trail (decl : LocalDecl ι) : Trail ε :=
  .append decl.type.trail (trailOfOptional event? decl.value)

/-- The trail of the first part of a `for`. -/
def ForInit.trail : ForInit ι → Trail ε
  | .none => .empty
  | .expr value _ => value.trail event?
  | .decl inner => .deeper 1 (inner.trail event?)

mutual

/-- The trail of a statement. -/
def Stmt.trail : Stmt ι → Trail ε
  | .expr value _ => .deeper 2 (value.trail event?)
  | .decl inner => .deeper 2 (inner.trail event?)
  | .block inner => .deeper 2 inner.trail
  | .ret value _ => .deeper 2 (trailOfOptional event? value)
  | .throw value _ => .deeper 2 (value.trail event?)
  | .rethrow _ => .deeper 2 .empty
  | .guarded body handlers _ =>
    .deeper 2 (.append body.trail (.deeper 1 (trailOfHandlers handlers)))
  | .branch inner => .deeper 1 inner.trail
  | .while condition body _ => .deeper 2 (.append (condition.trail event?) body.trail)
  | .doWhile body condition _ => .deeper 2 (.append body.trail (condition.trail event?))
  | .for init condition step body _ =>
    .deeper 2 (.append (init.trail event?) (.append (trailOfOptional event? condition)
      (.append (trailOfOptional event? step) body.trail)))
  | .break _ => .deeper 2 .empty
  | .continue _ => .deeper 2 .empty
  | .empty _ => .deeper 2 .empty

/-- The trail of several statements. -/
def trailOfStmts : List (Stmt ι) → Trail ε
  | [] => .empty
  | stmt :: rest => .append stmt.trail (trailOfStmts rest)

/-- The trail of a block. -/
def Block.trail : Block ι → Trail ε
  | .mk statements _ => .deeper 2 (trailOfStmts statements)

/-- The trail of a handler: its block comes before the type that it catches. -/
def Handler.trail : Handler ι → Trail ε
  | .mk none _ block _ => .deeper 1 block.trail
  | .mk (some type) _ block _ => .deeper 1 (.append block.trail type.trail)

/-- The trail of several handlers. -/
def trailOfHandlers : List (Handler ι) → Trail ε
  | [] => .empty
  | handler :: rest => .append handler.trail (trailOfHandlers rest)

/-- The trail of an `if`. -/
def Branch.trail : Branch ι → Trail ε
  | .mk condition whenTrue otherwise _ =>
    .deeper 1 (.append (condition.trail event?) (.append whenTrue.trail otherwise.trail))

/-- The trail of what follows the block of an `if`. -/
def Otherwise.trail : Otherwise ι → Trail ε
  | .none => .empty
  | .block inner => inner.trail
  | .chain inner => inner.trail

end

/-- The trail of a body that may be left out. -/
def trailOfBody : Option (Block ι) → Trail ε
  | none => .empty
  | some body => body.trail event?

/-- The trail of a function. -/
def FunctionDef.trail (function : FunctionDef ι) : Trail ε :=
  .deeper 1 (.append function.returnType.trail
    (.append (.deeper 2 (trailOfTypes (function.params.map (·.type))))
      (trailOfBody event? function.body)))

/-- The trail of a declaration. -/
def Item.trail : Item ι → Trail ε
  | .exception _ => .deeper 1 .empty
  | .alias definition => .deeper 1 definition.target.trail
  | .function definition => definition.trail event?

/-- The trail of declarations in the order in which they stand. -/
def trailOfItems : List (Item ι) → Trail ε
  | [] => .empty
  | item :: rest => .append (item.trail event?) (trailOfItems rest)

end

end Throws.Surface
