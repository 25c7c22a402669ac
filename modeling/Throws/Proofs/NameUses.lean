import Mathlib.Data.List.Basic
import Throws.Proofs.Relocation
import Throws.Surface.Precedence

/-!
# Names and calls in syntax trees

`uses` lists the expressions of a tree that are names or calls, in the order in which they are
written and each call behind what it is made of. A declaration of a function uses its own name
first.

Putting an expression together from operands adds no such expression and keeps their order
(`uses_assemble`), and moving a tree moves them all (`Program.uses_mapLoc`).
-/

namespace Throws.Surface

variable {ι κ : Type}

/-- Where a name stands, if the expression is one. -/
def Expr.nameLoc? : Expr ι → Option ι
  | .name _ loc => some loc
  | _ => none

/-- The location of a name is that of a name in the list. -/
theorem exists_name_of_mem {exprs : List (Expr ι)} {loc : ι}
    (h : loc ∈ exprs.filterMap Expr.nameLoc?) : ∃ ident, .name ident loc ∈ exprs := by
  obtain ⟨expr, hexpr, heq⟩ := List.mem_filterMap.mp h
  cases expr with
  | name ident loc =>
    obtain rfl := Option.some.inj heq
    exact ⟨ident, hexpr⟩
  | _ => cases heq

mutual

/-- The names and calls in an expression. -/
def Expr.uses : Expr ι → List (Expr ι)
  | .literal _ _ => []
  | .name ident loc => [.name ident loc]
  | .call function args loc => function.uses ++ (usesOfExprs args ++ [.call function args loc])
  | .unary _ operand _ => operand.uses
  | .binary _ left right _ => left.uses ++ right.uses
  | .assign target value _ => target.uses ++ value.uses

/-- The names and calls in several expressions. -/
def usesOfExprs : List (Expr ι) → List (Expr ι)
  | [] => []
  | expr :: rest => expr.uses ++ usesOfExprs rest

end

/-- The names and calls in an expression that may be left out. -/
def usesOfOptional : Option (Expr ι) → List (Expr ι)
  | none => []
  | some expr => expr.uses

/-- The names and calls in the first part of a `for`. -/
def ForInit.uses : ForInit ι → List (Expr ι)
  | .none => []
  | .expr value _ => value.uses
  | .decl inner => usesOfOptional inner.value

mutual

/-- The names and calls in a statement. -/
def Stmt.uses : Stmt ι → List (Expr ι)
  | .expr value _ => value.uses
  | .decl inner => usesOfOptional inner.value
  | .block inner => inner.uses
  | .ret value _ => usesOfOptional value
  | .throw value _ => value.uses
  | .guarded body handlers _ => body.uses ++ usesOfHandlers handlers
  | .branch inner => inner.uses
  | .while condition body _ => condition.uses ++ body.uses
  | .doWhile body condition _ => body.uses ++ condition.uses
  | .for init condition step body _ =>
    init.uses ++ (usesOfOptional condition ++ (usesOfOptional step ++ body.uses))
  | .rethrow _ | .break _ | .continue _ | .empty _ => []

/-- The names and calls in statements in a row. -/
def usesOfStmts : List (Stmt ι) → List (Expr ι)
  | [] => []
  | stmt :: rest => stmt.uses ++ usesOfStmts rest

/-- The names and calls in a block. -/
def Block.uses : Block ι → List (Expr ι)
  | .mk statements _ => usesOfStmts statements

/-- The names and calls in a handler. -/
def Handler.uses : Handler ι → List (Expr ι)
  | .mk _ _ block _ => block.uses

/-- The names and calls in several handlers. -/
def usesOfHandlers : List (Handler ι) → List (Expr ι)
  | [] => []
  | handler :: rest => handler.uses ++ usesOfHandlers rest

/-- The names and calls in an `if`. -/
def Branch.uses : Branch ι → List (Expr ι)
  | .mk condition whenTrue otherwise _ => condition.uses ++ (whenTrue.uses ++ otherwise.uses)

/-- The names and calls in what follows the block of an `if`. -/
def Otherwise.uses : Otherwise ι → List (Expr ι)
  | .none => []
  | .block inner => inner.uses
  | .chain inner => inner.uses

end

/-- The name of a function, and the names and calls in its body. -/
def FunctionDef.uses (function : FunctionDef ι) : List (Expr ι) :=
  .name function.name function.loc :: function.body.elim [] Block.uses

/-- The names and calls in a source text. -/
def Program.uses (program : Program ι) : List (Expr ι) :=
  program.functions.flatMap FunctionDef.uses

/-- The names and calls in a source text stand in the order of its items. -/
theorem Program.uses_ofItems_append (first second : List (Item ι)) :
    (Program.ofItems (first ++ second)).uses =
      (Program.ofItems first).uses ++ (Program.ofItems second).uses := by
  simp [uses, ofItems, List.filterMap_append]

/-- The names and calls in expressions in a row are those in each of them. -/
theorem usesOfExprs_eq_flatMap (exprs : List (Expr ι)) :
    usesOfExprs exprs = exprs.flatMap Expr.uses :=
  eq_flatMap_of_cons rfl (fun _ _ => rfl) exprs

/-- The names and calls in statements in a row are those in each of them. -/
theorem usesOfStmts_eq_flatMap (stmts : List (Stmt ι)) :
    usesOfStmts stmts = stmts.flatMap Stmt.uses :=
  eq_flatMap_of_cons rfl (fun _ _ => rfl) stmts

/-- The names and calls in handlers are those in each of them. -/
theorem usesOfHandlers_eq_flatMap (handlers : List (Handler ι)) :
    usesOfHandlers handlers = handlers.flatMap Handler.uses :=
  eq_flatMap_of_cons rfl (fun _ _ => rfl) handlers

/-! ## Operands -/

/-- The names and calls in the operands of a chain. -/
def usesOfChain (chain : Chain ι) : List (Expr ι) := chain.flatMap (·.2.expr.uses)

/-- Joining two operands keeps what is in them. -/
theorem uses_join (connective : Connective) (left right : Operand ι) :
    (connective.join left right).expr.uses = left.expr.uses ++ right.expr.uses := by
  cases connective <;> rfl

/-- Grouping to the left keeps what is in the operands. -/
theorem uses_groupLeft (first : Operand ι) (rest : Chain ι) :
    (groupLeft first rest).expr.uses = first.expr.uses ++ usesOfChain rest := by
  induction rest generalizing first with
  | nil => exact (List.append_nil _).symm
  | cons link rest ih =>
    rw [groupLeft, List.foldl_cons]
    refine (ih _).trans ?_
    rw [uses_join, List.append_assoc]
    rfl

/-- Grouping to the right keeps what is in the operands. -/
theorem uses_groupRight (first : Operand ι) (rest : Chain ι) :
    (groupRight first rest).expr.uses = first.expr.uses ++ usesOfChain rest := by
  induction rest generalizing first with
  | nil => exact (List.append_nil _).symm
  | cons link rest ih =>
    rw [groupRight, uses_join, ih]
    rfl

/-- A chain that is cut keeps all of its operands. -/
theorem usesOfChain_splitAtLevel (level : Nat) (chain : Chain ι) :
    usesOfChain chain = usesOfChain (splitAtLevel level chain).1 ++
      (splitAtLevel level chain).2.flatMap fun part =>
        part.2.1.expr.uses ++ usesOfChain part.2.2 := by
  induction chain with
  | nil => rfl
  | cons link rest ih =>
    have hlink : usesOfChain (link :: rest) = link.2.expr.uses ++ usesOfChain rest := rfl
    rw [hlink, ih, splitAtLevel]
    dsimp only
    split
    · rw [List.flatMap_cons, List.append_assoc]
      rfl
    · rw [← List.append_assoc]
      rfl

/-- Nothing is used in an expression but what is used in its operands, and in the same order. -/
theorem uses_assembleFrom (count level : Nat) (first : Operand ι) (rest : Chain ι) :
    (assembleFrom count level first rest).expr.uses.Sublist
      (first.expr.uses ++ usesOfChain rest) := by
  induction count generalizing level first rest with
  | zero => exact List.sublist_append_left _ _
  | succ count ih =>
    have hparts : ∀ parts : List (Connective × Operand ι × Chain ι),
        (usesOfChain (parts.map fun part =>
          (part.1, assembleFrom count (level + 1) part.2.1 part.2.2))).Sublist
          (parts.flatMap fun part => part.2.1.expr.uses ++ usesOfChain part.2.2) := by
      intro parts
      induction parts with
      | nil => exact .refl _
      | cons part parts ihparts => exact (ih (level + 1) part.2.1 part.2.2).append ihparts
    rw [assembleFrom, usesOfChain_splitAtLevel level rest, ← List.append_assoc]
    have hall := (ih (level + 1) first (splitAtLevel level rest).1).append
      (hparts (splitAtLevel level rest).2)
    dsimp only
    split
    · rw [uses_groupRight]
      exact hall
    · rw [uses_groupLeft]
      exact hall

/-- Putting an expression together adds no names and no calls and keeps their order. -/
theorem uses_assemble (first : Operand ι) (rest : Chain ι) :
    (assemble first rest).expr.uses.Sublist (first.expr.uses ++ usesOfChain rest) :=
  uses_assembleFrom _ _ first rest

/-! ## Moved trees -/

section Moved

variable (f : ι → κ)

/-- A moved expression is located where its location was moved to. -/
theorem Expr.loc_mapLoc (expr : Expr ι) : (expr.mapLoc f).loc = f expr.loc := by
  cases expr <;> rfl

/-- A moved name is still a name. -/
theorem Expr.nameLoc?_mapLoc (expr : Expr ι) : (expr.mapLoc f).nameLoc? = expr.nameLoc?.map f := by
  cases expr <;> rfl

/-- The names and calls in an expression are moved along. -/
theorem Expr.uses_mapLoc (expr : Expr ι) : (expr.mapLoc f).uses = expr.uses.map (·.mapLoc f) := by
  induction expr using Expr.induction with
  | call function args loc hfunction hargs =>
    simp [mapLoc, uses, hfunction, usesOfExprs_eq_flatMap, mapLocExprs_eq_map, List.flatMap_map,
      List.map_flatMap, List.flatMap_congr hargs]
  | _ => simp [mapLoc, uses, *]

/-- The same for an expression that may be left out. -/
theorem usesOfOptional_mapLoc (value : Option (Expr ι)) :
    usesOfOptional (value.map (·.mapLoc f)) = (usesOfOptional value).map (·.mapLoc f) := by
  cases value with
  | none => rfl
  | some expr => exact expr.uses_mapLoc f

/-- The same for the first part of a `for`. -/
theorem ForInit.uses_mapLoc (init : ForInit ι) :
    (init.mapLoc f).uses = init.uses.map (·.mapLoc f) := by
  cases init with
  | none => rfl
  | expr value loc => exact value.uses_mapLoc f
  | decl inner => exact usesOfOptional_mapLoc f inner.value

/-- The names and calls in a statement, or in a piece of one, are moved along. -/
def movedUses : Motive ι where
  stmt stmt := (stmt.mapLoc f).uses = stmt.uses.map (·.mapLoc f)
  block block := (block.mapLoc f).uses = block.uses.map (·.mapLoc f)
  handler handler := (handler.mapLoc f).uses = handler.uses.map (·.mapLoc f)
  branch branch := (branch.mapLoc f).uses = branch.uses.map (·.mapLoc f)
  otherwise otherwise := (otherwise.mapLoc f).uses = otherwise.uses.map (·.mapLoc f)

/-- They are moved along if those in the pieces are. -/
theorem movedUses_inherited : (movedUses f).Inherited where
  stmt stmt inside := by
    cases stmt with
    | guarded body handlers loc =>
      obtain ⟨hbody, hhandlers⟩ := inside
      simp only [movedUses] at hbody hhandlers ⊢
      simp [Stmt.mapLoc, Stmt.uses, hbody, usesOfHandlers_eq_flatMap, mapLocHandlers_eq_map,
        List.flatMap_map, List.map_flatMap, List.flatMap_congr hhandlers]
    | _ =>
      simp only [Motive.Inside, movedUses] at inside ⊢
      simp [Stmt.mapLoc, Stmt.uses, LocalDecl.mapLoc, Expr.uses_mapLoc, ForInit.uses_mapLoc,
        usesOfOptional_mapLoc, *]
  block statements loc hstatements := by
    simp only [movedUses] at hstatements ⊢
    simp [Block.mapLoc, Block.uses, usesOfStmts_eq_flatMap, mapLocStmts_eq_map, List.flatMap_map,
      List.map_flatMap, List.flatMap_congr hstatements]
  handler type binder block loc hblock := hblock
  branch condition whenTrue otherwise loc hwhenTrue hotherwise := by
    simp only [movedUses] at hwhenTrue hotherwise ⊢
    simp [Branch.mapLoc, Branch.uses, Expr.uses_mapLoc, hwhenTrue, hotherwise]
  nothing := rfl
  elseBlock block hblock := hblock
  elseIf branch hbranch := hbranch

/-- The names and calls in a function are moved along. -/
theorem FunctionDef.uses_mapLoc (function : FunctionDef ι) :
    (function.mapLoc f).uses = function.uses.map (·.mapLoc f) := by
  obtain ⟨name, params, returnType, clauses, body, loc⟩ := function
  cases body with
  | none => rfl
  | some block =>
    exact congrArg (Expr.name name (f loc) :: ·) ((movedUses_inherited f).block_holds block)

/-- The names and calls in a source text are moved along. -/
theorem Program.uses_mapLoc (program : Program ι) :
    (program.mapLoc f).uses = program.uses.map (·.mapLoc f) := by
  simp [uses, mapLoc, List.flatMap_map, List.map_flatMap, FunctionDef.uses_mapLoc]

end Moved

end Throws.Surface
