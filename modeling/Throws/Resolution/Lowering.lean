import Throws.Body.Node
import Throws.Resolution.Calls

/-!
# Resolving bodies

A syntax tree becomes a resolved body: calls get their targets, throws and handlers their types. A
local name hides a global one from where it is declared to the end of its block. What cannot be
resolved is left open in the body, for the analysis to reject.

An operator or a statement lies one level below what it belongs to. Arguments lie three levels below
their call, and the statements of a block two levels below the block.
-/

namespace Throws.Resolution

open Throws.Body Throws.Surface

/-- The types of the local names in scope, the latest declaration first. -/
abbrev Scope : Type := List (String × Ty)

/-- What the resolution of a body needs to know. -/
structure Place where
  /-- What the program declares. -/
  globals : Globals
  /-- The file of the body. -/
  file : String

namespace Place

/-- The span of a position in the body. -/
def span (place : Place) (pos : Pos) : Span := spanAt place.file pos

/-- The type that a spelling in the body stands for. -/
def resolve (place : Place) (type : TypeExpr Pos) : Logged Ty :=
  place.globals.types.resolve place.file type

end Place

/-- Whether the value of an operator is a truth value. -/
def isComparison : BinaryOp → Bool
  | .or | .and | .eq | .ne | .le | .ge | .lt | .gt => true
  | .plus | .minus | .star | .slash | .percent => false

/-- The type of a literal. -/
def literalType : Literal → Ty
  | .int _ => .plain "int"
  | .text _ => .plain "string"
  | .bool _ => .plain "bool"

/-- The type of calling a name that is not a local one. -/
def globalCallType (place : Place) (name : String) (arity : Nat) : Logged (Option Ty) := do
  match ← place.globals.types.exception? name with
  | some type => return some (.value type)
  | none => return (place.globals.call? name arity).map (·.returnType)

/-- The type of an expression, as far as it can be told. -/
def staticType (place : Place) (scope : Scope) : Expr Pos → Logged (Option Ty)
  | .literal value _ => .below 1 <| return some (literalType value)
  | .name ident _ => .below 1 <| return scope.lookup ident
  | .call (.name ident _) args _ => .below 1 <|
    match scope.lookup ident with
    | some _ => return none
    | none => globalCallType place ident args.length
  | .call _ _ _ => .below 1 <| return none
  | .assign target _ _ => .below 1 <| staticType place scope target
  | .binary op left _ _ => .below 1 <|
    if isComparison op then return some (.plain "bool") else staticType place scope left
  | .unary .bang _ _ => .below 1 <| return some (.plain "bool")
  | .unary _ operand _ => .below 1 <| staticType place scope operand

/-- A call of a name with resolved arguments. A local function value is called through, any other
local name cannot be called. -/
def lowerNamedCall (place : Place) (scope : Scope) (name : String) (args : List Node)
    (span : Span) : Logged Node := do
  match scope.lookup name with
  | some (.function _ contract) =>
    return .indirectCall (.variable name span) contract args span
  | some (.value _) => return .call none args (some name) span
  | none =>
    match ← place.globals.types.exception? name with
    | some type => return .construct (some type) args span
    | none =>
      return .call ((place.globals.call? name args.length).map (·.key)) args (some name) span

mutual

/-- Resolves an expression. -/
def lowerExpr (place : Place) (scope : Scope) : Expr Pos → Logged Node
  | .literal value loc => .below 1 <| return .literal value (place.span loc)
  | .name ident loc => .below 1 <| return .variable ident (place.span loc)
  | .unary op operand loc => .below 1 do
    let operand ← lowerExpr place scope operand
    return .unary op.symbol operand (place.span loc)
  | .binary op left right loc => .below 1 do
    let left ← lowerExpr place scope left
    let right ← lowerExpr place scope right
    return .binary op.symbol left right (place.span loc)
  | .assign target value loc => .below 1 do
    let target ← lowerExpr place scope target
    let value ← lowerExpr place scope value
    return .binary "=" target value (place.span loc)
  | .call (.name ident _) args loc => .below 2 do
    let args ← .below 1 (lowerExprs place scope args)
    lowerNamedCall place scope ident args (place.span loc)
  | .call function args loc => .below 2 do
    let args ← .below 1 (lowerExprs place scope args)
    let type ← staticType place scope function
    let callee ← lowerExpr place scope function
    match type with
    | some (.function _ contract) =>
      return .indirectCall callee contract args (place.span loc)
    | _ => return .call none (callee :: args) none (place.span loc)

/-- Resolves several expressions. -/
def lowerExprs (place : Place) (scope : Scope) : List (Expr Pos) → Logged (List Node)
  | [] => return []
  | expr :: rest => do
    let first ← lowerExpr place scope expr
    return first :: (← lowerExprs place scope rest)

end

/-- Resolves an expression that may be left out. -/
def lowerOptional (place : Place) (scope : Scope) : Option (Expr Pos) → Logged Node
  | none => return .absent
  | some expr => lowerExpr place scope expr

/-- A resolved statement, if anything is left of it, and the scope behind it. -/
structure Lowered where
  /-- The statement. -/
  node : Option Node
  /-- The scope behind the statement. -/
  scope : Scope

/-- Resolves a local variable. Its name is in scope only behind it. -/
def lowerDecl (place : Place) (scope : Scope) (decl : LocalDecl Pos) : Logged Lowered := do
  let value ← lowerOptional place scope decl.value
  let type ← place.resolve decl.type
  return ⟨some (.bind decl.name value (place.span decl.loc)), (decl.name, type) :: scope⟩

/-- Resolves the first part of a `for`. -/
def lowerInit (place : Place) (scope : Scope) : ForInit Pos → Logged Lowered
  | .none => return ⟨none, scope⟩
  | .expr value loc => .below 1 do
    let value ← lowerExpr place scope value
    return ⟨some (.eval value (place.span loc)), scope⟩
  | .decl decl => .below 1 (lowerDecl place scope decl)

/-- What a handler catches: the type of the caught value, none for any. A function type cannot be
caught. -/
def lowerCaught (place : Place) (loc : Pos) : Option (TypeExpr Pos) → Logged (Option ValueType)
  | none => return none
  | some type => do
    match ← place.resolve type with
    | .value type => return some type
    | .function params contract => do
      .report (Problem.caughtFunction.report (place.span loc))
      return some { name := (Ty.function params contract).render }

/-- The scope of a handler that names the caught value. -/
def bindCaught (scope : Scope) : Option ValueType → Option String → Scope
  | some type, some name => (name, .value type) :: scope
  | _, _ => scope

mutual

/-- Resolves a statement. -/
def lowerStmt (place : Place) (scope : Scope) : Stmt Pos → Logged Lowered
  | .expr value loc => .below 1 do
    let value ← lowerExpr place scope value
    return ⟨some (.eval value (place.span loc)), scope⟩
  | .decl decl => .below 1 (lowerDecl place scope decl)
  | .block block => .below 1 do
    let block ← lowerBlock place scope block
    return ⟨some block, scope⟩
  | .ret value loc => .below 1 do
    let value ← lowerOptional place scope value
    return ⟨some (.ret value (place.span loc)), scope⟩
  | .throw value loc => .below 1 do
    let type ← staticType place scope value
    let value ← lowerExpr place scope value
    return ⟨some (.throw value (type.bind Ty.value?) (place.span loc)), scope⟩
  | .rethrow loc => .below 1 <| return ⟨some (.rethrow (place.span loc)), scope⟩
  | .guarded body handlers loc => .below 1 do
    let body ← lowerBlock place scope body
    let clauses ← .below 1 (lowerHandlers place scope handlers)
    return ⟨some (.guarded body clauses (place.span loc)), scope⟩
  | .branch branch => do
    let branch ← lowerBranch place scope branch
    return ⟨some branch, scope⟩
  | .while condition body loc => .below 1 do
    let body ← lowerBlock place scope body
    let condition ← lowerExpr place scope condition
    return ⟨some (.loop body condition .absent .absent (place.span loc)), scope⟩
  | .doWhile body condition loc => .below 1 do
    let body ← lowerBlock place scope body
    let condition ← lowerExpr place scope condition
    return ⟨some (.loop body condition .absent .absent (place.span loc)), scope⟩
  | .for init condition step body loc => .below 1 do
    let init ← lowerInit place scope init
    let condition ← lowerOptional place init.scope condition
    let step ← lowerOptional place init.scope step
    let body ← lowerBlock place init.scope body
    return ⟨some (.loop body condition (init.node.getD .absent) step (place.span loc)), scope⟩
  | .break loc => .below 1 <| return ⟨some (.leave (place.span loc)), scope⟩
  | .continue loc => .below 1 <| return ⟨some (.next (place.span loc)), scope⟩
  | .empty _ => .below 1 <| return ⟨none, scope⟩

/-- Resolves statements in a row, each in the scope behind the one before it. -/
def lowerStmts (place : Place) (scope : Scope) : List (Stmt Pos) → Logged (List Node)
  | [] => return []
  | stmt :: rest => do
    let first ← lowerStmt place scope stmt
    let others ← lowerStmts place first.scope rest
    return first.node.toList ++ others

/-- Resolves a block. -/
def lowerBlock (place : Place) (scope : Scope) : Block Pos → Logged Node
  | .mk statements loc => .below 2 do
    let statements ← lowerStmts place scope statements
    return .block statements (place.span loc)

/-- Resolves a handler. -/
def lowerHandler (place : Place) (scope : Scope) : Handler Pos → Logged Clause
  | .mk type binder block loc => .below 1 do
    let type ← lowerCaught place loc type
    let block ← lowerBlock place (bindCaught scope type binder) block
    return .mk type binder block (place.span loc)

/-- Resolves several handlers. -/
def lowerHandlers (place : Place) (scope : Scope) : List (Handler Pos) → Logged (List Clause)
  | [] => return []
  | handler :: rest => do
    let first ← lowerHandler place scope handler
    return first :: (← lowerHandlers place scope rest)

/-- Resolves an `if`. -/
def lowerBranch (place : Place) (scope : Scope) : Branch Pos → Logged Node
  | .mk condition whenTrue otherwise loc => .below 1 do
    let condition ← lowerExpr place scope condition
    let whenTrue ← lowerBlock place scope whenTrue
    let whenFalse ← lowerOtherwise place scope otherwise
    return .branch condition whenTrue whenFalse (place.span loc)

/-- Resolves what follows the block of an `if`; `else if` is an `if` in a block of its own. -/
def lowerOtherwise (place : Place) (scope : Scope) : Otherwise Pos → Logged Node
  | .none => return .absent
  | .block block => lowerBlock place scope block
  | .chain branch => .below 2 do
    let inner ← lowerBranch place scope branch
    return .block [inner] (place.span branch.loc)

end

/-- The scope of a body: the named parameters, the last one first. -/
def paramScope (place : Place) : List (Param Pos) → Scope → Logged Scope
  | [], scope => return scope
  | param :: rest, scope =>
    match param.name with
    | none => paramScope place rest scope
    | some name => do
      let type ← place.resolve param.type
      paramScope place rest ((name, type) :: scope)

/-- Resolves the body of a function, if it has one. -/
def lowerBody (place : Place) (function : FunctionDef Pos) : Logged (Option Node) := do
  match function.body with
  | none => return none
  | some body => .below 1 do
    let scope ← paramScope place function.params []
    return some (← lowerBlock place scope body)

/-- Resolves a declaration or definition whose types are resolved already. -/
def lowerFunction (globals : Globals) (header : Header) : Logged Function := do
  let place : Place := ⟨globals, header.file⟩
  let body ← lowerBody place header.source
  return {
    key := header.key
    specifier := header.specifier
    body := body
    span := place.span header.source.loc }

end Throws.Resolution
