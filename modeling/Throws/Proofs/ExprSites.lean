import Mathlib.Data.List.Basic
import Throws.Proofs.Parts
import Throws.Proofs.PlaceAgreement

/-!
# Expressions in source texts and in bodies

`Block.sites` lists the expressions in a block of source text, each with the names that are bound
where it stands: parameters, local variables and caught values, the latest one first. This is read
off the text alone. `Node.exprs` lists the expressions in a resolved body.

The main result is that resolution keeps all of them, adds none and does not move any: the
expressions in a resolved body are those in the text, resolved one by one in the scope that their
bindings make up (`exprs_lowerBody`). A name in front of arguments counts as part of the call. Where
a function value is called, the name of it becomes a variable next to the call (`Node.own`). The
same for calls alone is `calls_lowerBody`.
-/

namespace Throws.Surface

/-! ## Expressions in source texts -/

/-- What gives a meaning to a local name. -/
inductive Binding where
  /-- A parameter or a local variable of the given type. -/
  | declared (name : String) (type : TypeExpr Pos)
  /-- A caught value, where the handler names the given type. -/
  | caught (name : String) (type : TypeExpr Pos)

/-- The name that is bound. -/
def Binding.name : Binding → String
  | .declared name _ | .caught name _ => name

/-- An expression with what is bound where it stands, the latest binding first. -/
structure Site where
  /-- The bindings. -/
  visible : List Binding
  /-- The expression. -/
  expr : Expr Pos

/-- Whether the expression is a call. -/
def Expr.isCall : Expr Pos → Bool
  | .call _ _ _ => true
  | _ => false

mutual

/-- An expression and those inside of it, each before those inside of it in turn. A name that is
called is part of the call. -/
def Expr.pieces : Expr Pos → List (Expr Pos)
  | .literal value loc => [.literal value loc]
  | .name ident loc => [.name ident loc]
  | .call (.name ident loc') args loc => .call (.name ident loc') args loc :: piecesAll args
  | .call function args loc => .call function args loc :: (function.pieces ++ piecesAll args)
  | .unary op operand loc => .unary op operand loc :: operand.pieces
  | .binary op left right loc => .binary op left right loc :: (left.pieces ++ right.pieces)
  | .assign target value loc => .assign target value loc :: (target.pieces ++ value.pieces)

/-- Several expressions and those inside of them. -/
def piecesAll : List (Expr Pos) → List (Expr Pos)
  | [] => []
  | expr :: rest => expr.pieces ++ piecesAll rest

end

/-- In a call of something that is not a name, that counts by itself. -/
theorem Expr.pieces_computed {function : Expr Pos} (h : ∀ ident loc, function ≠ .name ident loc)
    (args : List (Expr Pos)) (loc : Pos) :
    (Expr.call function args loc).pieces =
      .call function args loc :: (function.pieces ++ piecesAll args) := by
  rw [pieces]
  exact h

/-- The expressions in a row are those of each of them. -/
theorem piecesAll_eq_flatMap (exprs : List (Expr Pos)) :
    piecesAll exprs = exprs.flatMap Expr.pieces :=
  eq_flatMap_of_cons rfl (fun _ _ => rfl) exprs

/-- The calls in an expression, each before those in what it calls and in its arguments. -/
def Expr.calls (expr : Expr Pos) : List (Expr Pos) := expr.pieces.filter Expr.isCall

/-- The expressions in an expression where the given names are bound. -/
def Expr.sites (visible : List Binding) (expr : Expr Pos) : List Site :=
  expr.pieces.map (Site.mk visible)

/-- The expressions in an expression that may be left out. -/
def optionalSites (visible : List Binding) : Option (Expr Pos) → List Site
  | none => []
  | some expr => expr.sites visible

/-- What a local variable binds. -/
def LocalDecl.binding (decl : LocalDecl Pos) : Binding := .declared decl.name decl.type

/-- What the first part of a `for` binds. -/
def ForInit.bindings : ForInit Pos → List Binding
  | .decl inner => [inner.binding]
  | _ => []

/-- The expressions in the first part of a `for`. -/
def ForInit.sites (visible : List Binding) : ForInit Pos → List Site
  | .none => []
  | .expr value _ => value.sites visible
  | .decl inner => optionalSites visible inner.value

/-- What a handler binds. -/
def caughtBindings : Option (TypeExpr Pos) → Option String → List Binding
  | some type, some name => [.caught name type]
  | _, _ => []

/-- What a statement binds for those behind it. -/
def Stmt.bindings : Stmt Pos → List Binding
  | .decl inner => [inner.binding]
  | _ => []

mutual

/-- The expressions in a statement. In a loop the condition comes before the body and the step after
it. -/
def Stmt.sites (visible : List Binding) : Stmt Pos → List Site
  | .expr value _ => value.sites visible
  | .decl inner => optionalSites visible inner.value
  | .block inner => inner.sites visible
  | .ret value _ => optionalSites visible value
  | .throw value _ => value.sites visible
  | .guarded body handlers _ => body.sites visible ++ handlersSites visible handlers
  | .branch inner => inner.sites visible
  | .while condition body _ => condition.sites visible ++ body.sites visible
  | .doWhile body condition _ => condition.sites visible ++ body.sites visible
  | .for init condition step body _ =>
    init.sites visible ++ optionalSites (init.bindings ++ visible) condition ++
      body.sites (init.bindings ++ visible) ++
      optionalSites (init.bindings ++ visible) step
  | .rethrow _ | .break _ | .continue _ | .empty _ => []

/-- The expressions in statements in a row, each with what those before it bind. -/
def stmtsSites (visible : List Binding) : List (Stmt Pos) → List Site
  | [] => []
  | stmt :: rest => stmt.sites visible ++ stmtsSites (stmt.bindings ++ visible) rest

/-- The expressions in a block. -/
def Block.sites (visible : List Binding) : Block Pos → List Site
  | .mk statements _ => stmtsSites visible statements

/-- The expressions in a handler. -/
def Handler.sites (visible : List Binding) : Handler Pos → List Site
  | .mk type binder block _ => block.sites (caughtBindings type binder ++ visible)

/-- The expressions in several handlers. -/
def handlersSites (visible : List Binding) : List (Handler Pos) → List Site
  | [] => []
  | handler :: rest => handler.sites visible ++ handlersSites visible rest

/-- The expressions in an `if`. -/
def Branch.sites (visible : List Binding) : Branch Pos → List Site
  | .mk condition whenTrue otherwise _ =>
    condition.sites visible ++ whenTrue.sites visible ++ otherwise.sites visible

/-- The expressions in what follows the block of an `if`. -/
def Otherwise.sites (visible : List Binding) : Otherwise Pos → List Site
  | .none => []
  | .block inner => inner.sites visible
  | .chain inner => inner.sites visible

end

/-- What the parameters of a function bind, the last one first. -/
def paramBindings (params : List (Param Pos)) : List Binding :=
  (params.filterMap fun param => param.name.map (.declared · param.type)).reverse

/-- The expressions in the body of a function, if it has one. -/
def FunctionDef.sites (definition : FunctionDef Pos) : List Site :=
  definition.body.elim [] (Block.sites (paramBindings definition.params))

/-- The calls in the body of a function, if it has one. -/
def FunctionDef.callSites (definition : FunctionDef Pos) : List Site :=
  definition.sites.filter (·.expr.isCall)

end Throws.Surface

namespace Throws.Body.Node

/-! ## Expressions in bodies -/

/-- Whether the node is a call: of a function, through a function value, or of a constructor. -/
@[simp]
def isCall : Node → Bool
  | .call _ _ _ _ | .indirectCall _ _ _ _ | .construct _ _ _ => true
  | _ => false

/-- Whether the node is an expression. -/
@[simp]
def isExpr : Node → Bool
  | .literal _ _ | .variable _ _ | .unary _ _ _ | .binary _ _ _ _ => true
  | node => node.isCall

/-- The expressions in a fragment, in the order in which a walk enters them. -/
def exprs (node : Node) : List Node := (node.occurrences.map (·.node)).filter isExpr

/-- The calls in a fragment, in the order in which a walk enters them. -/
def calls (node : Node) : List Node := (node.occurrences.map (·.node)).filter isCall

/-- What a resolved expression adds apart from the expressions inside of it: itself, and along with
a call through a variable that variable. -/
def own : Node → List Node
  | .indirectCall (.variable name loc) contract args span =>
    [.indirectCall (.variable name loc) contract args span, .variable name loc]
  | node => [node]

/-- The calls in a fragment are found among the expressions. -/
theorem calls_eq_filter (node : Node) : node.calls = node.exprs.filter isCall := by
  have hcall : ∀ node : Node, (node.isCall && node.isExpr) = node.isCall := by
    intro node
    cases node <;> rfl
  rw [calls, exprs, List.filter_filter]
  simp only [hcall]

/-- What a resolved expression adds has at most one call in it. -/
theorem filter_isCall_own (node : Node) :
    node.own.filter isCall = if node.isCall then [node] else [] := by
  unfold own
  split
  · rfl
  · simp [List.filter_cons]

/-- The expressions in a fragment are itself, if it is one, and those in its parts. -/
theorem exprs_eq (node : Node) :
    node.exprs = (if node.isExpr then [node] else []) ++ node.parts.flatMap (·.2.exprs) := by
  have hunder : ∀ part : Descent × Node,
      ((part.2.occurrences.map (Occurrence.under part.1)).map (·.node)).filter isExpr =
        part.2.exprs := fun part => by
    rw [List.map_map]
    rfl
  rw [exprs, occurrences_eq, List.map_cons, List.filter_cons, List.map_flatMap,
    List.filter_flatMap]
  simp only [hunder]
  cases node.isExpr <;> rfl

/-- In a node other than a `try`, the expressions are those that simply lie inside. -/
@[simp]
theorem exprs_eq_inner {node : Node} (h : ∀ body clauses span, node ≠ .guarded body clauses span) :
    node.exprs = (if node.isExpr then [node] else []) ++ node.inner.flatMap exprs := by
  rw [exprs_eq, parts_eq_inner h, List.flatMap_map]

/-- In a `try`, they are those in its body and in its handlers. -/
@[simp]
theorem exprs_guarded (body : Node) (clauses : List Clause) (span : Span) :
    (Node.guarded body clauses span).exprs = body.exprs ++ clauses.flatMap (·.block.exprs) := by
  refine (exprs_eq _).trans ?_
  simp [parts, List.flatMap_map]

/-- A part that was left out has no expressions. -/
@[simp]
theorem flatMap_exprs_present (node : Node) : node.present.flatMap exprs = node.exprs := by
  cases node <;> simp [present, inner]

/-- The same for parts in a row. -/
@[simp]
theorem flatMap_flatMap_exprs_present (nodes : List Node) :
    (nodes.flatMap present).flatMap exprs = nodes.flatMap exprs := by
  rw [List.flatMap_assoc]
  simp

end Throws.Body.Node

namespace Throws.Resolution

open Throws.Body Throws.Surface

/-! ## Expressions -/

section Expressions

variable (place : Place) (scope : Scope)

/-- A call by name is resolved by what the name means. -/
theorem value_lowerExpr_named (ident : String) (loc : Pos) (args : List (Expr Pos)) (loc' : Pos) :
    (lowerExpr place scope (.call (.name ident loc) args loc')).value =
      (lowerNamedCall place scope ident (lowerExprs place scope args).value
        (place.span loc')).value := by
  rw [lowerExpr]
  rfl

/-- Any other call is resolved by the type of what is called. -/
theorem value_lowerExpr_computed {function : Expr Pos}
    (h : ∀ ident loc, function ≠ .name ident loc) (args : List (Expr Pos)) (loc : Pos) :
    (lowerExpr place scope (.call function args loc)).value =
      computedCall (staticType place scope function).value (lowerExpr place scope function).value
        (lowerExprs place scope args).value (place.span loc) := by
  rw [lowerExpr_computed place scope h]
  rfl

/-- However a call by name is resolved, it is a call, and what is inside are its arguments. -/
theorem exprs_lowerNamedCall (name : String) (args : List Node) (span : Span) :
    (lowerNamedCall place scope name args span).value.isCall = true ∧
      (lowerNamedCall place scope name args span).value.exprs =
        (lowerNamedCall place scope name args span).value.own ++ args.flatMap Node.exprs := by
  unfold lowerNamedCall
  split
  · simp [Node.inner, Node.own]
  · simp [Node.inner, Node.own]
  · rw [Logged.value_bind]
    cases (place.globals.types.exception? name).value <;> simp [Node.inner, Node.own]

/-- However any other call is resolved, it is a call, and what is called is inside along with the
arguments. -/
theorem exprs_computedCall (type : Option Ty) {callee : Node}
    (h : ∀ name span, callee ≠ .variable name span) (args : List Node) (span : Span) :
    (computedCall type callee args span).isCall = true ∧
      (computedCall type callee args span).exprs =
        (computedCall type callee args span).own ++ (callee.exprs ++ args.flatMap Node.exprs) := by
  have hown : ∀ contract, (Node.indirectCall callee contract args span).own =
      [.indirectCall callee contract args span] := by
    intro contract
    unfold Node.own
    split
    case h_1 heq => exact absurd (Node.indirectCall.inj heq).1 (h _ _)
    case h_2 => rfl
  unfold computedCall
  split
  · simp [Node.inner, hown]
  · simp [Node.inner, Node.own]

/-- Calls become calls, and nothing else does. -/
theorem isCall_lowerExpr (expr : Expr Pos) :
    (lowerExpr place scope expr).value.isCall = expr.isCall := by
  cases expr with
  | call function args loc =>
    rcases exists_name_or_computed function with ⟨ident, loc', rfl⟩ | hcomputed
    · rw [value_lowerExpr_named]
      exact (exprs_lowerNamedCall place scope ident _ _).1
    · rw [value_lowerExpr_computed place scope hcomputed]
      unfold computedCall
      split <;> rfl
  | _ => rfl

/-- Nothing but a name becomes a variable. -/
theorem value_lowerExpr_ne_variable {expr : Expr Pos} (h : ∀ ident loc, expr ≠ .name ident loc)
    (name : String) (span : Span) : (lowerExpr place scope expr).value ≠ .variable name span := by
  intro heq
  cases expr with
  | name ident loc => exact h ident loc rfl
  | call function args loc =>
    have hcall := isCall_lowerExpr place scope (.call function args loc)
    rw [heq] at hcall
    cases hcall
  | _ =>
    rw [lowerExpr] at heq
    cases heq

/-- The expressions in a resolved expression are those in the expression, resolved one by one. -/
theorem exprs_lowerExpr (expr : Expr Pos) :
    (lowerExpr place scope expr).value.exprs =
      expr.pieces.flatMap fun piece => (lowerExpr place scope piece).value.own := by
  induction expr using Expr.induction with
  | literal value loc => simp [lowerExpr, Expr.pieces, Node.inner, Node.own]
  | name ident loc => simp [lowerExpr, Expr.pieces, Node.inner, Node.own]
  | unary op operand loc hoperand =>
    simp [lowerExpr, Expr.pieces, Node.inner, Node.own, hoperand]
  | binary op left right loc hleft hright =>
    simp [lowerExpr, Expr.pieces, Node.inner, Node.own, hleft, hright]
  | assign target value loc htarget hvalue =>
    simp [lowerExpr, Expr.pieces, Node.inner, Node.own, htarget, hvalue]
  | call function args loc hfunction hargs =>
    have hnodes : (lowerExprs place scope args).value.flatMap Node.exprs =
        (piecesAll args).flatMap fun piece => (lowerExpr place scope piece).value.own := by
      rw [lowerExprs_eq_each, Logged.value_each, piecesAll_eq_flatMap, List.flatMap_map,
        List.flatMap_assoc, List.flatMap_congr hargs]
    rcases exists_name_or_computed function with ⟨ident, loc', rfl⟩ | hcomputed
    · rw [Expr.pieces, List.flatMap_cons, ← hnodes, value_lowerExpr_named]
      exact (exprs_lowerNamedCall place scope ident _ _).2
    · -- What is called is not a variable, since it is not a name.
      have hcallee := value_lowerExpr_ne_variable place scope hcomputed
      rw [Expr.pieces_computed hcomputed, List.flatMap_cons, List.flatMap_append, ← hnodes,
        ← hfunction, value_lowerExpr_computed place scope hcomputed]
      exact (exprs_computedCall _ hcallee _ _).2

/-- The calls among resolved expressions are the resolved calls. -/
theorem filter_isCall_flatMap_own {α : Type} (lower : α → Node) (items : List α)
    (isCall : α → Bool) (h : ∀ item, (lower item).isCall = isCall item) :
    (items.flatMap fun item => (lower item).own).filter Node.isCall =
      (items.filter isCall).map lower := by
  induction items with
  | nil => rfl
  | cons item rest ih =>
    rw [List.flatMap_cons, List.filter_append, ih, Node.filter_isCall_own, h, List.filter_cons]
    cases isCall item <;> rfl

/-- The calls in a resolved expression are the calls in the expression, resolved one by one. -/
theorem calls_lowerExpr (expr : Expr Pos) :
    (lowerExpr place scope expr).value.calls =
      expr.calls.map fun call => (lowerExpr place scope call).value := by
  rw [Node.calls_eq_filter, exprs_lowerExpr, Expr.calls]
  exact filter_isCall_flatMap_own _ _ _ (isCall_lowerExpr place scope)

end Expressions

/-! ## Scopes -/

/-- The type of a value that is caught by a handler for the given type. -/
def caughtType (place : Place) (type : TypeExpr Pos) : ValueType :=
  match (place.resolve type).value with
  | .value type => type
  | .function params contract => { name := (Ty.function params contract).render }

/-- The name that is bound, with its type. -/
def bindingType (place : Place) : Binding → String × Ty
  | .declared name type => (name, (place.resolve type).value)
  | .caught name type => (name, .value (caughtType place type))

/-- The scope that bindings make up. -/
def scopeOf (place : Place) (visible : List Binding) : Scope := visible.map (bindingType place)

/-- What an expression in a source text is resolved to. -/
def lowerSite (place : Place) (site : Site) : Node :=
  (lowerExpr place (scopeOf place site.visible) site.expr).value

section Scopes

variable (place : Place) (visible : List Binding)

/-- A handler for a type catches values of the type that its name stands for. -/
theorem value_lowerCaught (loc : Pos) (type : TypeExpr Pos) :
    (lowerCaught place loc (some type)).value = some (caughtType place type) := by
  rw [lowerCaught, caughtType, Logged.value_bind]
  cases (place.resolve type).value <;> rfl

/-- What a handler binds is in the scope of its block. -/
theorem bindCaught_scopeOf (loc : Pos) (type : Option (TypeExpr Pos)) (binder : Option String) :
    bindCaught (scopeOf place visible) (lowerCaught place loc type).value binder =
      scopeOf place (caughtBindings type binder ++ visible) := by
  cases type with
  | none => rfl
  | some type =>
    rw [value_lowerCaught]
    cases binder <;> rfl

/-- The scope of a body is that of the parameters. -/
theorem value_paramScope (params : List (Param Pos)) (scope : Scope) :
    (paramScope place params scope).value = scopeOf place (paramBindings params) ++ scope := by
  induction params generalizing scope with
  | nil => rfl
  | cons param rest ih =>
    obtain ⟨type, name⟩ := param
    cases name with
    | none => exact ih scope
    | some name =>
      rw [paramScope, Logged.value_bind, ih]
      simp [paramBindings, scopeOf, bindingType]

/-- The expressions in a resolved expression, where the scope is that of some bindings. -/
theorem exprs_lowerExpr_scopeOf (expr : Expr Pos) :
    (lowerExpr place (scopeOf place visible) expr).value.exprs =
      (expr.sites visible).flatMap fun site => (lowerSite place site).own := by
  rw [exprs_lowerExpr, Expr.sites, List.flatMap_map]
  rfl

/-- What is left out has no expressions. -/
theorem exprs_lowerOptional (expr : Option (Expr Pos)) :
    (lowerOptional place (scopeOf place visible) expr).value.exprs =
      (optionalSites visible expr).flatMap fun site => (lowerSite place site).own := by
  cases expr with
  | none => simp [lowerOptional, optionalSites, Node.inner]
  | some expr => exact exprs_lowerExpr_scopeOf place visible expr

end Scopes

/-! ## Statements -/

/-- The expressions in what is left of a statement. -/
def Lowered.exprs (lowered : Lowered) : List Node := lowered.node.toList.flatMap Node.exprs

section Parts

variable (place : Place) (visible : List Binding)

/-- The expressions in a local variable are those of its first value. -/
theorem exprs_lowerDecl (decl : LocalDecl Pos) :
    (lowerDecl place (scopeOf place visible) decl).value.exprs =
      (optionalSites visible decl.value).flatMap fun site => (lowerSite place site).own := by
  rw [← exprs_lowerOptional]
  simp [lowerDecl, Lowered.exprs, Node.inner]

/-- The expressions in the first part of a `for`. -/
theorem exprs_lowerInit (init : ForInit Pos) :
    ((lowerInit place (scopeOf place visible) init).value.node.getD .absent).exprs =
      (init.sites visible).flatMap fun site => (lowerSite place site).own := by
  cases init with
  | none => simp [lowerInit, ForInit.sites, Node.inner]
  | expr value loc =>
    rw [ForInit.sites, ← exprs_lowerExpr_scopeOf]
    simp [lowerInit, Node.inner]
  | decl decl =>
    rw [ForInit.sites, ← exprs_lowerDecl]
    simp [lowerInit, lowerDecl, Lowered.exprs]

/-- The scope behind the first part of a `for`. -/
theorem scope_lowerInit (init : ForInit Pos) :
    (lowerInit place (scopeOf place visible) init).value.scope =
      scopeOf place (init.bindings ++ visible) := by
  cases init <;> rfl

/-- The scope behind a statement is what it binds and what was bound before. -/
theorem scope_lowerStmt (stmt : Stmt Pos) :
    (lowerStmt place (scopeOf place visible) stmt).value.scope =
      scopeOf place (stmt.bindings ++ visible) := by
  cases stmt <;> simp only [lowerStmt, Stmt.bindings] <;> rfl

end Parts

/-- The expressions in handlers are those of each of them. -/
theorem handlersSites_eq_flatMap (visible : List Binding) (handlers : List (Handler Pos)) :
    handlersSites visible handlers = handlers.flatMap (Handler.sites visible) :=
  eq_flatMap_of_cons rfl (fun _ _ => rfl) handlers

/-- The expressions in a resolved statement, or a piece of one, are those in the source text, each
resolved in the scope of its bindings. -/
def keptExprs (place : Place) : Motive Pos where
  stmt stmt := ∀ visible, (lowerStmt place (scopeOf place visible) stmt).value.exprs =
    (stmt.sites visible).flatMap fun site => (lowerSite place site).own
  block block := ∀ visible, (lowerBlock place (scopeOf place visible) block).value.exprs =
    (block.sites visible).flatMap fun site => (lowerSite place site).own
  handler handler := ∀ visible,
    (lowerHandler place (scopeOf place visible) handler).value.block.exprs =
      (handler.sites visible).flatMap fun site => (lowerSite place site).own
  branch branch := ∀ visible, (lowerBranch place (scopeOf place visible) branch).value.exprs =
    (branch.sites visible).flatMap fun site => (lowerSite place site).own
  otherwise otherwise := ∀ visible,
    (lowerOtherwise place (scopeOf place visible) otherwise).value.exprs =
      (otherwise.sites visible).flatMap fun site => (lowerSite place site).own

/-- Statements in a row keep their expressions if each of them does. -/
theorem exprs_lowerStmts {place : Place} {stmts : List (Stmt Pos)}
    (h : ∀ stmt ∈ stmts, (keptExprs place).stmt stmt) (visible : List Binding) :
    (lowerStmts place (scopeOf place visible) stmts).value.flatMap Node.exprs =
      (stmtsSites visible stmts).flatMap fun site => (lowerSite place site).own := by
  induction stmts generalizing visible with
  | nil => rfl
  | cons stmt rest ih =>
    obtain ⟨hstmt, hrest⟩ := List.forall_mem_cons.mp h
    have hexprs := hstmt visible
    rw [Lowered.exprs] at hexprs
    -- What the statement binds is visible in those behind it.
    simp [lowerStmts, stmtsSites, scope_lowerStmt, hexprs, ih hrest]

/-- A statement keeps its expressions if its pieces do. -/
theorem keptExprs_inherited (place : Place) : (keptExprs place).Inherited where
  stmt stmt inside visible := by
    cases stmt with
    | decl decl => exact exprs_lowerDecl place visible decl
    | guarded body handlers loc =>
      obtain ⟨hbody, hhandlers⟩ := inside
      have hclauses := List.flatMap_congr fun handler hmem => hhandlers handler hmem visible
      simp [lowerStmt, Stmt.sites, Lowered.exprs, lowerHandlers_eq_each, List.flatMap_map,
        List.flatMap_assoc, handlersSites_eq_flatMap, hbody visible, hclauses]
    | _ =>
      -- What the first part of a `for` binds is visible everywhere but in itself.
      simp only [Motive.Inside, keptExprs] at inside
      simp [lowerStmt, Stmt.sites, Lowered.exprs, Node.inner, exprs_lowerExpr_scopeOf,
        exprs_lowerOptional, scope_lowerInit, exprs_lowerInit, *]
  block statements loc hstatements visible := by
    simp [lowerBlock, Block.sites, Node.inner, exprs_lowerStmts hstatements]
  handler type binder block loc hblock visible := by
    -- What is caught is visible in the block.
    simp [lowerHandler, Handler.sites, bindCaught_scopeOf, Clause.block, hblock _]
  branch condition whenTrue otherwise loc hwhenTrue hotherwise visible := by
    simp [lowerBranch, Branch.sites, Node.inner, exprs_lowerExpr_scopeOf, hwhenTrue visible,
      hotherwise visible]
  nothing visible := by simp [lowerOtherwise, Otherwise.sites, Node.inner]
  elseBlock block hblock visible := hblock visible
  elseIf branch hbranch visible := by
    simp [lowerOtherwise, Otherwise.sites, Node.inner, hbranch visible]

/-- The expressions in a resolved body are those in the function, each resolved in the scope of its
bindings. -/
theorem exprs_lowerBody (place : Place) (definition : FunctionDef Pos) :
    (lowerBody place definition).value.elim [] Node.exprs =
      definition.sites.flatMap fun site => (lowerSite place site).own := by
  rw [lowerBody, FunctionDef.sites]
  cases definition.body with
  | none => rfl
  | some body =>
    have hscope := value_paramScope place definition.params []
    rw [List.append_nil] at hscope
    have hblock := (keptExprs_inherited place).block_holds body
    simp [hscope, hblock _]

/-- The calls in a resolved body are the calls in the function, each resolved in the scope of its
bindings. -/
theorem calls_lowerBody (place : Place) (definition : FunctionDef Pos) :
    (lowerBody place definition).value.elim [] Node.calls =
      definition.callSites.map (lowerSite place) := by
  have hcalls : (lowerBody place definition).value.elim [] Node.calls =
      ((lowerBody place definition).value.elim [] Node.exprs).filter Node.isCall := by
    cases (lowerBody place definition).value with
    | none => rfl
    | some body => exact body.calls_eq_filter
  rw [hcalls, exprs_lowerBody]
  exact filter_isCall_flatMap_own _ _ _ fun site => isCall_lowerExpr place _ site.expr

end Throws.Resolution
