import Throws.Surface.Tree

/-!
# Induction over source texts

Types and expressions have lists of the same inside. Statements have blocks, handlers and `else`
parts inside, which have statements inside again. Whatever walks through a source text follows this
recursion, above all the resolution of bodies, and so does what is said of it. The recursion is gone
through here, once for types (`TypeExpr.induction`), once for expressions (`Expr.induction`) and
once for statements (`Motive.Inherited.stmt_holds` and the like).

What is said of statements and of the pieces they are made of is a `Motive`. It is inherited if it
passes from the pieces to the whole, and then it holds everywhere.
-/

namespace Throws.Surface

variable {ι : Type}

/-! ## Lists -/

/-- A list that is put together item by item. -/
theorem eq_flatMap_of_cons {α β : Type} {each : α → List β} {all : List α → List β}
    (hnil : all [] = []) (hcons : ∀ item rest, all (item :: rest) = each item ++ all rest)
    (items : List α) : all items = items.flatMap each := by
  induction items with
  | nil => exact hnil
  | cons item rest ih => rw [hcons, ih, List.flatMap_cons]

/-- The same where every item gives one. -/
theorem eq_map_of_cons {α β : Type} {each : α → β} {all : List α → List β} (hnil : all [] = [])
    (hcons : ∀ item rest, all (item :: rest) = each item :: all rest) (items : List α) :
    all items = items.map each := by
  induction items with
  | nil => exact hnil
  | cons item rest ih => rw [hcons, ih, List.map_cons]

/-! ## Types and expressions -/

/-- What passes to a function type from its parameters holds of every type. -/
theorem TypeExpr.induction {motive : TypeExpr ι → Prop}
    (named : ∀ name isConst isVolatile isRef loc, motive (.named name isConst isVolatile isRef loc))
    (function : ∀ params clauses loc, (∀ param ∈ params, motive param) →
      motive (.function params clauses loc)) (type : TypeExpr ι) : motive type :=
  @TypeExpr.rec ι motive (fun types => ∀ type ∈ types, motive type) named function
    (List.forall_mem_nil _)
    (fun _ _ hfirst hrest => List.forall_mem_cons.mpr ⟨hfirst, hrest⟩) type

/-- What passes to an expression from the expressions directly inside holds of every expression. -/
theorem Expr.induction {motive : Expr ι → Prop}
    (literal : ∀ value loc, motive (.literal value loc))
    (name : ∀ ident loc, motive (.name ident loc))
    (call : ∀ function args loc, motive function → (∀ arg ∈ args, motive arg) →
      motive (.call function args loc))
    (unary : ∀ op operand loc, motive operand → motive (.unary op operand loc))
    (binary : ∀ op left right loc, motive left → motive right →
      motive (.binary op left right loc))
    (assign : ∀ target value loc, motive target → motive value →
      motive (.assign target value loc)) (expr : Expr ι) : motive expr :=
  @Expr.rec ι motive (fun exprs => ∀ expr ∈ exprs, motive expr) literal name call unary binary
    assign (List.forall_mem_nil _)
    (fun _ _ hfirst hrest => List.forall_mem_cons.mpr ⟨hfirst, hrest⟩) expr

/-! ## Statements -/

/-- Something that is said of statements and of the pieces they are made of. -/
structure Motive (ι : Type) where
  /-- What is said of a statement. -/
  stmt : Stmt ι → Prop
  /-- What is said of a block. -/
  block : Block ι → Prop
  /-- What is said of a handler. -/
  handler : Handler ι → Prop
  /-- What is said of an `if`. -/
  branch : Branch ι → Prop
  /-- What is said of whatever follows the block of an `if`. -/
  otherwise : Otherwise ι → Prop

/-- It is true of the pieces directly inside a statement. -/
def Motive.Inside (motive : Motive ι) : Stmt ι → Prop
  | .block inner => motive.block inner
  | .guarded body handlers _ => motive.block body ∧ ∀ handler ∈ handlers, motive.handler handler
  | .branch inner => motive.branch inner
  | .while _ body _ | .doWhile body _ _ | .for _ _ _ body _ => motive.block body
  | _ => True

/-- It passes from the pieces to the whole. -/
structure Motive.Inherited (motive : Motive ι) : Prop where
  /-- To a statement from what is directly inside. -/
  stmt : ∀ stmt, motive.Inside stmt → motive.stmt stmt
  /-- To a block from its statements. -/
  block : ∀ statements loc, (∀ stmt ∈ statements, motive.stmt stmt) →
    motive.block (.mk statements loc)
  /-- To a handler from its block. -/
  handler : ∀ type binder block loc, motive.block block → motive.handler (.mk type binder block loc)
  /-- To an `if` from its block and what follows. -/
  branch : ∀ condition whenTrue otherwise loc, motive.block whenTrue →
    motive.otherwise otherwise → motive.branch (.mk condition whenTrue otherwise loc)
  /-- To nothing at all. -/
  nothing : motive.otherwise .none
  /-- To an `else` from its block. -/
  elseBlock : ∀ block, motive.block block → motive.otherwise (.block block)
  /-- To an `else if` from the `if`. -/
  elseIf : ∀ branch, motive.branch branch → motive.otherwise (.chain branch)

namespace Motive.Inherited

variable {motive : Motive ι}

mutual

/-- What is inherited holds of every statement. -/
theorem stmt_holds (h : motive.Inherited) : (stmt : Stmt ι) → motive.stmt stmt
  | .expr value loc => h.stmt (.expr value loc) trivial
  | .decl inner => h.stmt (.decl inner) trivial
  | .block inner => h.stmt (.block inner) (block_holds h inner)
  | .ret value loc => h.stmt (.ret value loc) trivial
  | .throw value loc => h.stmt (.throw value loc) trivial
  | .rethrow loc => h.stmt (.rethrow loc) trivial
  | .guarded body handlers loc =>
    h.stmt (.guarded body handlers loc) ⟨block_holds h body, handlers_hold h handlers⟩
  | .branch inner => h.stmt (.branch inner) (branch_holds h inner)
  | .while condition body loc => h.stmt (.while condition body loc) (block_holds h body)
  | .doWhile body condition loc => h.stmt (.doWhile body condition loc) (block_holds h body)
  | .for init condition step body loc =>
    h.stmt (.for init condition step body loc) (block_holds h body)
  | .break loc => h.stmt (.break loc) trivial
  | .continue loc => h.stmt (.continue loc) trivial
  | .empty loc => h.stmt (.empty loc) trivial
termination_by structural stmt => stmt

/-- It holds of all statements in a row. -/
theorem stmts_hold (h : motive.Inherited) : (stmts : List (Stmt ι)) →
    ∀ stmt ∈ stmts, motive.stmt stmt
  | [] => List.forall_mem_nil _
  | stmt :: rest => List.forall_mem_cons.mpr ⟨stmt_holds h stmt, stmts_hold h rest⟩
termination_by structural stmts => stmts

/-- It holds of every block. -/
theorem block_holds (h : motive.Inherited) : (block : Block ι) → motive.block block
  | .mk statements loc => h.block statements loc (stmts_hold h statements)
termination_by structural block => block

/-- It holds of every handler. -/
theorem handler_holds (h : motive.Inherited) : (handler : Handler ι) → motive.handler handler
  | .mk type binder block loc => h.handler type binder block loc (block_holds h block)
termination_by structural handler => handler

/-- It holds of all handlers of a `try`. -/
theorem handlers_hold (h : motive.Inherited) : (handlers : List (Handler ι)) →
    ∀ handler ∈ handlers, motive.handler handler
  | [] => List.forall_mem_nil _
  | handler :: rest => List.forall_mem_cons.mpr ⟨handler_holds h handler, handlers_hold h rest⟩
termination_by structural handlers => handlers

/-- It holds of every `if`. -/
theorem branch_holds (h : motive.Inherited) : (branch : Branch ι) → motive.branch branch
  | .mk condition whenTrue otherwise loc => h.branch condition whenTrue otherwise loc
    (block_holds h whenTrue) (otherwise_holds h otherwise)
termination_by structural branch => branch

/-- It holds of whatever follows the block of an `if`. -/
theorem otherwise_holds (h : motive.Inherited) : (otherwise : Otherwise ι) →
    motive.otherwise otherwise
  | .none => h.nothing
  | .block block => h.elseBlock block (block_holds h block)
  | .chain branch => h.elseIf branch (branch_holds h branch)
termination_by structural otherwise => otherwise

end

end Motive.Inherited

end Throws.Surface
