import Throws.Proofs.SyntaxInduction
import Throws.Surface.Relocate

/-!
# Trees without locations

Locations that are changed twice may be changed at once. So a tree that has been moved is the same
as before without its locations (`Program.unlocated_mapLoc`), which is how trees are compared that
come from different texts.
-/

namespace Throws.Surface

variable {ι κ μ : Type} (f : ι → κ) (g : κ → μ)

/-! ## Lists -/

/-- Types in a row are moved one by one. -/
theorem mapLocTypes_eq_map (types : List (TypeExpr ι)) :
    mapLocTypes f types = types.map (·.mapLoc f) :=
  eq_map_of_cons rfl (fun _ _ => rfl) types

/-- Expressions in a row are moved one by one. -/
theorem mapLocExprs_eq_map (exprs : List (Expr ι)) :
    mapLocExprs f exprs = exprs.map (·.mapLoc f) :=
  eq_map_of_cons rfl (fun _ _ => rfl) exprs

/-- Statements in a row are moved one by one. -/
theorem mapLocStmts_eq_map (stmts : List (Stmt ι)) :
    mapLocStmts f stmts = stmts.map (·.mapLoc f) :=
  eq_map_of_cons rfl (fun _ _ => rfl) stmts

/-- Handlers are moved one by one. -/
theorem mapLocHandlers_eq_map (handlers : List (Handler ι)) :
    mapLocHandlers f handlers = handlers.map (·.mapLoc f) :=
  eq_map_of_cons rfl (fun _ _ => rfl) handlers

/-! ## Trees that are moved twice -/

/-- Clauses may be moved at once. -/
@[simp]
theorem Clauses.mapLoc_mapLoc (clauses : Clauses ι) :
    (clauses.mapLoc f).mapLoc g = clauses.mapLoc (g ∘ f) := by
  simp only [mapLoc, Option.map_map]

/-- A type may be moved at once. -/
@[simp]
theorem TypeExpr.mapLoc_mapLoc (type : TypeExpr ι) :
    (type.mapLoc f).mapLoc g = type.mapLoc (g ∘ f) := by
  induction type using TypeExpr.induction with
  | named name isConst isVolatile isRef loc => rfl
  | function params clauses loc hparams => simpa [mapLoc, mapLocTypes_eq_map] using hparams

/-- An expression may be moved at once. -/
@[simp]
theorem Expr.mapLoc_mapLoc (expr : Expr ι) : (expr.mapLoc f).mapLoc g = expr.mapLoc (g ∘ f) := by
  induction expr using Expr.induction with
  | call function args loc hfunction hargs =>
    simpa [mapLoc, mapLocExprs_eq_map, hfunction] using hargs
  | _ => simp [mapLoc, *]

/-- A local variable may be moved at once. -/
@[simp]
theorem LocalDecl.mapLoc_mapLoc (decl : LocalDecl ι) :
    (decl.mapLoc f).mapLoc g = decl.mapLoc (g ∘ f) := by
  simp [mapLoc, Function.comp_def]

/-- The first part of a `for` may be moved at once. -/
@[simp]
theorem ForInit.mapLoc_mapLoc (init : ForInit ι) :
    (init.mapLoc f).mapLoc g = init.mapLoc (g ∘ f) := by
  cases init <;> simp [mapLoc]

/-- A statement, or a piece of one, may be moved at once. -/
def movedAtOnce : Motive ι where
  stmt stmt := (stmt.mapLoc f).mapLoc g = stmt.mapLoc (g ∘ f)
  block block := (block.mapLoc f).mapLoc g = block.mapLoc (g ∘ f)
  handler handler := (handler.mapLoc f).mapLoc g = handler.mapLoc (g ∘ f)
  branch branch := (branch.mapLoc f).mapLoc g = branch.mapLoc (g ∘ f)
  otherwise otherwise := (otherwise.mapLoc f).mapLoc g = otherwise.mapLoc (g ∘ f)

/-- A statement may be moved at once if its pieces may. -/
theorem movedAtOnce_inherited : (movedAtOnce f g).Inherited where
  stmt stmt inside := by
    cases stmt with
    | guarded body handlers loc =>
      obtain ⟨hbody, hhandlers⟩ := inside
      simp only [movedAtOnce] at hbody hhandlers ⊢
      simpa [Stmt.mapLoc, mapLocHandlers_eq_map, hbody] using hhandlers
    | _ =>
      simp only [Motive.Inside, movedAtOnce] at inside ⊢
      simp [Stmt.mapLoc, Function.comp_def, *]
  block statements loc hstatements := by
    simp only [movedAtOnce] at hstatements ⊢
    simpa [Block.mapLoc, mapLocStmts_eq_map] using hstatements
  handler type binder block loc hblock := by
    simp only [movedAtOnce] at hblock ⊢
    simp [Handler.mapLoc, Function.comp_def, hblock]
  branch condition whenTrue otherwise loc hwhenTrue hotherwise := by
    simp only [movedAtOnce] at hwhenTrue hotherwise ⊢
    simp [Branch.mapLoc, hwhenTrue, hotherwise]
  nothing := rfl
  elseBlock block hblock := congrArg Otherwise.block hblock
  elseIf branch hbranch := congrArg Otherwise.chain hbranch

/-- A block may be moved at once. -/
@[simp]
theorem Block.mapLoc_mapLoc (block : Block ι) :
    (block.mapLoc f).mapLoc g = block.mapLoc (g ∘ f) :=
  (movedAtOnce_inherited f g).block_holds block

/-- A function may be moved at once. -/
@[simp]
theorem FunctionDef.mapLoc_mapLoc (function : FunctionDef ι) :
    (function.mapLoc f).mapLoc g = function.mapLoc (g ∘ f) := by
  simp [mapLoc, Function.comp_def]

/-- A source text may be moved at once. -/
theorem Program.mapLoc_mapLoc (program : Program ι) :
    (program.mapLoc f).mapLoc g = program.mapLoc (g ∘ f) := by
  simp [mapLoc, Function.comp_def]

/-- The text without its locations. -/
def Program.unlocated (program : Program ι) : Program Unit := program.mapLoc fun _ => ()

/-- A text that has been moved is the same without its locations. -/
@[simp]
theorem Program.unlocated_mapLoc (program : Program ι) :
    (program.mapLoc f).unlocated = program.unlocated :=
  program.mapLoc_mapLoc f _

end Throws.Surface
