import Throws.Surface.Tree

/-!
# Changing locations

`mapLoc` applies a function to every location of a tree and leaves all else as it is. The reader
uses it to turn token numbers into positions; with the constant function it forgets where things
stand.
-/

namespace Throws.Surface

variable {ι κ : Type}

/-- Changes the location of merged clauses. -/
def Clauses.mapLoc (f : ι → κ) (clauses : Clauses ι) : Clauses κ where
  throws := clauses.throws
  wildcard := clauses.wildcard
  noexcept := clauses.noexcept
  loc := clauses.loc.map f

mutual

/-- Changes the locations of a type. -/
def TypeExpr.mapLoc (f : ι → κ) : TypeExpr ι → TypeExpr κ
  | .named name isConst isVolatile isRef loc => .named name isConst isVolatile isRef (f loc)
  | .function params clauses loc =>
    .function (mapLocTypes f params) (clauses.mapLoc f) (f loc)

/-- Changes the locations of several types. -/
def mapLocTypes (f : ι → κ) : List (TypeExpr ι) → List (TypeExpr κ)
  | [] => []
  | type :: rest => type.mapLoc f :: mapLocTypes f rest

end

mutual

/-- Changes the locations of an expression. -/
def Expr.mapLoc (f : ι → κ) : Expr ι → Expr κ
  | .literal value loc => .literal value (f loc)
  | .name ident loc => .name ident (f loc)
  | .call function args loc => .call (function.mapLoc f) (mapLocExprs f args) (f loc)
  | .unary op operand loc => .unary op (operand.mapLoc f) (f loc)
  | .binary op left right loc => .binary op (left.mapLoc f) (right.mapLoc f) (f loc)
  | .assign target value loc => .assign (target.mapLoc f) (value.mapLoc f) (f loc)

/-- Changes the locations of several expressions. -/
def mapLocExprs (f : ι → κ) : List (Expr ι) → List (Expr κ)
  | [] => []
  | expr :: rest => expr.mapLoc f :: mapLocExprs f rest

end

/-- Changes the locations of a local variable. -/
def LocalDecl.mapLoc (f : ι → κ) (decl : LocalDecl ι) : LocalDecl κ where
  type := decl.type.mapLoc f
  name := decl.name
  value := decl.value.map (·.mapLoc f)
  loc := f decl.loc

/-- Changes the locations of the first part of a `for`. -/
def ForInit.mapLoc (f : ι → κ) : ForInit ι → ForInit κ
  | .none => .none
  | .expr value loc => .expr (value.mapLoc f) (f loc)
  | .decl inner => .decl (inner.mapLoc f)

mutual

/-- Changes the locations of a statement. -/
def Stmt.mapLoc (f : ι → κ) : Stmt ι → Stmt κ
  | .expr value loc => .expr (value.mapLoc f) (f loc)
  | .decl inner => .decl (inner.mapLoc f)
  | .block inner => .block (inner.mapLoc f)
  | .ret value loc => .ret (value.map (·.mapLoc f)) (f loc)
  | .throw value loc => .throw (value.mapLoc f) (f loc)
  | .rethrow loc => .rethrow (f loc)
  | .guarded body handlers loc =>
    .guarded (body.mapLoc f) (mapLocHandlers f handlers) (f loc)
  | .branch inner => .branch (inner.mapLoc f)
  | .while condition body loc => .while (condition.mapLoc f) (body.mapLoc f) (f loc)
  | .doWhile body condition loc => .doWhile (body.mapLoc f) (condition.mapLoc f) (f loc)
  | .for init condition step body loc =>
    .for (init.mapLoc f) (condition.map (·.mapLoc f)) (step.map (·.mapLoc f)) (body.mapLoc f)
      (f loc)
  | .break loc => .break (f loc)
  | .continue loc => .continue (f loc)
  | .empty loc => .empty (f loc)

/-- Changes the locations of several statements. -/
def mapLocStmts (f : ι → κ) : List (Stmt ι) → List (Stmt κ)
  | [] => []
  | stmt :: rest => stmt.mapLoc f :: mapLocStmts f rest

/-- Changes the locations of a block. -/
def Block.mapLoc (f : ι → κ) : Block ι → Block κ
  | .mk statements loc => .mk (mapLocStmts f statements) (f loc)

/-- Changes the locations of a handler. -/
def Handler.mapLoc (f : ι → κ) : Handler ι → Handler κ
  | .mk type binder block loc => .mk (type.map (·.mapLoc f)) binder (block.mapLoc f) (f loc)

/-- Changes the locations of several handlers. -/
def mapLocHandlers (f : ι → κ) : List (Handler ι) → List (Handler κ)
  | [] => []
  | handler :: rest => handler.mapLoc f :: mapLocHandlers f rest

/-- Changes the locations of an `if`. -/
def Branch.mapLoc (f : ι → κ) : Branch ι → Branch κ
  | .mk condition whenTrue otherwise loc =>
    .mk (condition.mapLoc f) (whenTrue.mapLoc f) (otherwise.mapLoc f) (f loc)

/-- Changes the locations of what follows the block of an `if`. -/
def Otherwise.mapLoc (f : ι → κ) : Otherwise ι → Otherwise κ
  | .none => .none
  | .block inner => .block (inner.mapLoc f)
  | .chain inner => .chain (inner.mapLoc f)

end

/-- Changes the locations of a function. -/
def FunctionDef.mapLoc (f : ι → κ) (function : FunctionDef ι) : FunctionDef κ where
  name := function.name
  params := function.params.map fun param => ⟨param.type.mapLoc f, param.name⟩
  returnType := function.returnType.mapLoc f
  clauses := function.clauses.mapLoc f
  body := function.body.map (·.mapLoc f)
  loc := f function.loc

/-- Changes the locations of a source text. -/
def Program.mapLoc (f : ι → κ) (program : Program ι) : Program κ where
  exceptions := program.exceptions.map fun exception => ⟨exception.name, f exception.loc⟩
  aliases := program.aliases.map fun definition =>
    ⟨definition.name, definition.target.mapLoc f, f definition.loc⟩
  functions := program.functions.map (·.mapLoc f)

end Throws.Surface
