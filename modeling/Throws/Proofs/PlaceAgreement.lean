import Throws.Proofs.SyntaxInduction
import Throws.Proofs.TypeResolution

/-!
# What bodies depend on

The resolution of a body asks four things of the program: what a spelling stands for, whether a name
is an exception, what function a call is about, and what file the body is in. Where two programs
give the same answers, every body is resolved to the same in both, with the same errors.
-/

namespace Throws.Resolution

open Throws.Body Throws.Surface

/-! ## Expressions and handlers in rows -/

/-- Computations that are the same one by one are the same in a row. -/
theorem Logged.each_congr {α β : Type} {compute compute' : α → Logged β} {as : List α}
    (h : ∀ a ∈ as, compute a = compute' a) : Logged.each compute as = Logged.each compute' as := by
  induction as with
  | nil => rfl
  | cons a rest ih =>
    obtain ⟨hfirst, hrest⟩ := List.forall_mem_cons.mp h
    rw [Logged.each, Logged.each, hfirst, ih hrest]

/-- Expressions in a row are resolved one by one. -/
theorem lowerExprs_eq_each (place : Place) (scope : Scope) (exprs : List (Expr Pos)) :
    lowerExprs place scope exprs = Logged.each (lowerExpr place scope) exprs := by
  induction exprs with
  | nil => rfl
  | cons expr rest ih => rw [lowerExprs, Logged.each, ih]

/-- Handlers are resolved one by one. -/
theorem lowerHandlers_eq_each (place : Place) (scope : Scope) (handlers : List (Handler Pos)) :
    lowerHandlers place scope handlers = Logged.each (lowerHandler place scope) handlers := by
  induction handlers with
  | nil => rfl
  | cons handler rest ih => rw [lowerHandlers, Logged.each, ih]

/-! ## Calls -/

/-- A call of something that is not a name, by the type of what is called. -/
def computedCall (type : Option Ty) (callee : Node) (args : List Node) (span : Span) : Node :=
  match type with
  | some (.function _ contract) => .indirectCall callee contract args span
  | _ => .call none (callee :: args) none span

/-- A call is by name, or what is called has to be evaluated. -/
theorem exists_name_or_computed (function : Expr Pos) :
    (∃ ident loc, function = .name ident loc) ∨ ∀ ident loc, function ≠ .name ident loc := by
  cases function with
  | name ident loc => exact .inl ⟨ident, loc, rfl⟩
  | _ => exact .inr nofun

/-- In a call that is not by name, the arguments are resolved before what is called. -/
theorem lowerExpr_computed (place : Place) (scope : Scope) {function : Expr Pos}
    (h : ∀ ident loc, function ≠ .name ident loc) (args : List (Expr Pos)) (loc : Pos) :
    lowerExpr place scope (.call function args loc) = .below 2 (do
      let args ← .below 1 (lowerExprs place scope args)
      let type ← staticType place scope function
      let callee ← lowerExpr place scope function
      return computedCall type callee args (place.span loc)) := by
  rw [lowerExpr]
  · refine congrArg (Logged.below 2)
      (bind_congr fun args => bind_congr fun type => bind_congr fun callee => ?_)
    rcases type with _ | _ | _ <;> rfl
  · exact h

/-! ## Places -/

/-- Places at which the same is known. -/
structure Place.Agree (place place' : Place) : Prop where
  /-- They are in the same file. -/
  file_eq : place.file = place'.file
  /-- Spellings stand for the same types. -/
  resolve_eq : place.resolve = place'.resolve
  /-- The same names denote exceptions. -/
  exception?_eq : place.globals.types.exception? = place'.globals.types.exception?
  /-- Calls have the same targets. -/
  call?_eq : place.globals.call? = place'.globals.call?

section Agreement

variable {place place' : Place} (h : place.Agree place')

include h

/-- Positions have the same spans. -/
theorem Place.Agree.span_eq : place.span = place'.span := by
  funext pos
  rw [Place.span, Place.span, h.file_eq]

/-- Calls of functions have the same types. -/
theorem globalCallType_congr : globalCallType place = globalCallType place' := by
  funext name arity
  rw [globalCallType, globalCallType, h.exception?_eq, h.call?_eq]

/-- Calls by name mean the same. -/
theorem lowerNamedCall_congr : lowerNamedCall place = lowerNamedCall place' := by
  funext scope name args span
  rw [lowerNamedCall, lowerNamedCall, h.exception?_eq, h.call?_eq]

/-- Expressions have the same types. -/
theorem staticType_congr (scope : Scope) : (expr : Expr Pos) →
    staticType place scope expr = staticType place' scope expr
  | .literal _ _ => rfl
  | .name _ _ => rfl
  | .call function args _ => by
    cases function <;> simp only [staticType, globalCallType_congr h]
  | .unary op operand _ => by
    cases op <;> simp only [staticType, staticType_congr scope operand]
  | .binary _ left _ _ => by simp only [staticType, staticType_congr scope left]
  | .assign target _ _ => by simp only [staticType, staticType_congr scope target]
termination_by structural expr => expr

end Agreement

section Expressions

variable {place place' : Place} (h : place.Agree place') (scope : Scope)

include h

/-- An expression is resolved to the same. -/
theorem lowerExpr_congr (expr : Expr Pos) :
    lowerExpr place scope expr = lowerExpr place' scope expr := by
  induction expr using Expr.induction with
  | literal value loc => simp only [lowerExpr, h.span_eq]
  | name ident loc => simp only [lowerExpr, h.span_eq]
  | unary op operand loc hoperand => simp only [lowerExpr, h.span_eq, hoperand]
  | binary op left right loc hleft hright => simp only [lowerExpr, h.span_eq, hleft, hright]
  | assign target value loc htarget hvalue => simp only [lowerExpr, h.span_eq, htarget, hvalue]
  | call function args loc hfunction hargs =>
    have heach := Logged.each_congr hargs
    rcases exists_name_or_computed function with ⟨ident, loc, rfl⟩ | hcomputed
    · simp only [lowerExpr, h.span_eq, lowerNamedCall_congr h, lowerExprs_eq_each, heach]
    · rw [lowerExpr_computed _ _ hcomputed, lowerExpr_computed _ _ hcomputed, hfunction,
        h.span_eq, staticType_congr h, lowerExprs_eq_each, lowerExprs_eq_each, heach]

end Expressions

section Parts

variable {place place' : Place} (h : place.Agree place')

include h

/-- An expression that may be left out is resolved to the same. -/
theorem lowerOptional_congr (scope : Scope) (expr : Option (Expr Pos)) :
    lowerOptional place scope expr = lowerOptional place' scope expr := by
  cases expr with
  | none => rfl
  | some expr => exact lowerExpr_congr h scope expr

/-- A local variable is resolved to the same. -/
theorem lowerDecl_congr (scope : Scope) (decl : LocalDecl Pos) :
    lowerDecl place scope decl = lowerDecl place' scope decl := by
  simp only [lowerDecl, lowerOptional_congr h, h.resolve_eq, h.span_eq]

/-- The first part of a `for` is resolved to the same. -/
theorem lowerInit_congr (scope : Scope) (init : ForInit Pos) :
    lowerInit place scope init = lowerInit place' scope init := by
  cases init with
  | none => rfl
  | expr value loc => simp only [lowerInit, lowerExpr_congr h, h.span_eq]
  | decl decl => simp only [lowerInit, lowerDecl_congr h]

/-- A handler catches the same. -/
theorem lowerCaught_congr (loc : Pos) (type : Option (TypeExpr Pos)) :
    lowerCaught place loc type = lowerCaught place' loc type := by
  cases type with
  | none => rfl
  | some type => simp only [lowerCaught, h.resolve_eq, h.span_eq]

end Parts

/-- Statements and their pieces are resolved to the same at both places. -/
def agreement (place place' : Place) : Motive Pos where
  stmt stmt := ∀ scope, lowerStmt place scope stmt = lowerStmt place' scope stmt
  block block := ∀ scope, lowerBlock place scope block = lowerBlock place' scope block
  handler handler := ∀ scope, lowerHandler place scope handler = lowerHandler place' scope handler
  branch branch := ∀ scope, lowerBranch place scope branch = lowerBranch place' scope branch
  otherwise otherwise :=
    ∀ scope, lowerOtherwise place scope otherwise = lowerOtherwise place' scope otherwise

/-- Statements that are resolved to the same one by one are so in a row. -/
theorem lowerStmts_congr {place place' : Place} {stmts : List (Stmt Pos)}
    (h : ∀ stmt ∈ stmts, (agreement place place').stmt stmt) (scope : Scope) :
    lowerStmts place scope stmts = lowerStmts place' scope stmts := by
  induction stmts generalizing scope with
  | nil => rfl
  | cons stmt rest ih =>
    obtain ⟨hstmt, hrest⟩ := List.forall_mem_cons.mp h
    simp only [lowerStmts, hstmt scope, ih hrest]

/-- Where the same is known, agreement passes from the pieces of a statement to the whole. -/
theorem agreement_inherited {place place' : Place} (h : place.Agree place') :
    (agreement place place').Inherited where
  stmt stmt inside scope := by
    cases stmt with
    | guarded body handlers loc =>
      obtain ⟨hbody, hhandlers⟩ := inside
      -- The handlers are the only pieces that come in a list.
      have heach := Logged.each_congr fun handler hmem => hhandlers handler hmem scope
      simp only [lowerStmt, lowerHandlers_eq_each, hbody scope, heach, h.span_eq]
    | _ =>
      simp only [Motive.Inside, agreement] at inside
      simp only [lowerStmt, lowerExpr_congr h, lowerOptional_congr h, lowerDecl_congr h,
        lowerInit_congr h, staticType_congr h, h.span_eq, *]
  block statements loc hstatements scope := by
    simp only [lowerBlock, lowerStmts_congr hstatements, h.span_eq]
  handler type binder block loc hblock scope := by
    simp only [lowerHandler, lowerCaught_congr h, hblock _, h.span_eq]
  branch condition whenTrue otherwise loc hwhenTrue hotherwise scope := by
    simp only [lowerBranch, lowerExpr_congr h, hwhenTrue scope, hotherwise scope, h.span_eq]
  nothing _ := rfl
  elseBlock block hblock scope := hblock scope
  elseIf branch hbranch scope := by simp only [lowerOtherwise, hbranch scope, h.span_eq]

/-- Parameters are bound to the same types. -/
theorem paramScope_congr {place place' : Place} (h : place.Agree place') (params : List (Param Pos))
    (scope : Scope) : paramScope place params scope = paramScope place' params scope := by
  induction params generalizing scope with
  | nil => rfl
  | cons param rest ih => simp only [paramScope, ih, h.resolve_eq]

/-- A body is resolved to the same at places at which the same is known. -/
theorem lowerBody_congr {place place' : Place} (h : place.Agree place')
    (function : FunctionDef Pos) : lowerBody place function = lowerBody place' function := by
  have hblock := (agreement_inherited h).block_holds
  simp only [agreement] at hblock
  simp only [lowerBody, paramScope_congr h, hblock]

/-- A function is resolved to the same if the same is known in its file. -/
theorem lowerFunction_congr {globals globals' : Globals} {header : Header}
    (h : Place.Agree ⟨globals, header.file⟩ ⟨globals', header.file⟩) :
    lowerFunction globals header = lowerFunction globals' header := by
  simp only [lowerFunction, lowerBody_congr h, h.span_eq]

end Throws.Resolution
