import Mathlib.Data.List.Forall2
import Throws.Surface.Tree

/-!
# Trees that are alike

Two syntax trees are alike if they differ in nothing but their locations. Statements contain types,
and types are often to be compared in another way than by their spelling. So the relation `Like` on
statements, functions and whole texts is parametrised by a relation between types; the locations are
left open everywhere.
-/

namespace Throws.Surface

variable {ι κ : Type}

/-! ## Expressions -/

/-- The same expression, wherever its parts stand. -/
inductive Expr.Like : Expr ι → Expr κ → Prop
  | literal {value : Literal} {loc : ι} {loc' : κ} :
      Expr.Like (.literal value loc) (.literal value loc')
  | name {ident : String} {loc : ι} {loc' : κ} : Expr.Like (.name ident loc) (.name ident loc')
  | call {function : Expr ι} {function' : Expr κ} {args : List (Expr ι)} {args' : List (Expr κ)}
      {loc : ι} {loc' : κ} : Expr.Like function function' → List.Forall₂ Expr.Like args args' →
      Expr.Like (.call function args loc) (.call function' args' loc')
  | unary {op : UnaryOp} {operand : Expr ι} {operand' : Expr κ} {loc : ι} {loc' : κ} :
      Expr.Like operand operand' → Expr.Like (.unary op operand loc) (.unary op operand' loc')
  | binary {op : BinaryOp} {left right : Expr ι} {left' right' : Expr κ} {loc : ι} {loc' : κ} :
      Expr.Like left left' → Expr.Like right right' →
      Expr.Like (.binary op left right loc) (.binary op left' right' loc')
  | assign {target value : Expr ι} {target' value' : Expr κ} {loc : ι} {loc' : κ} :
      Expr.Like target target' → Expr.Like value value' →
      Expr.Like (.assign target value loc) (.assign target' value' loc')

/-! ## Statements -/

/-- Local variables that differ in locations and in types. -/
structure LocalDecl.Like (related : TypeExpr ι → TypeExpr κ → Prop) (decl : LocalDecl ι)
    (decl' : LocalDecl κ) : Prop where
  /-- Their types are related. -/
  type : related decl.type decl'.type
  /-- They have the same name. -/
  name_eq : decl.name = decl'.name
  /-- They have the same first value, or none. -/
  value : Option.Rel Expr.Like decl.value decl'.value

/-- First parts of a `for` that differ in locations and in types. -/
inductive ForInit.Like (related : TypeExpr ι → TypeExpr κ → Prop) : ForInit ι → ForInit κ → Prop
  | none : ForInit.Like related .none .none
  | expr {value : Expr ι} {value' : Expr κ} {loc : ι} {loc' : κ} : value.Like value' →
      ForInit.Like related (.expr value loc) (.expr value' loc')
  | decl {inner : LocalDecl ι} {inner' : LocalDecl κ} : inner.Like related inner' →
      ForInit.Like related (.decl inner) (.decl inner')

mutual

/-- Statements that differ in locations and in types. -/
inductive Stmt.Like (related : TypeExpr ι → TypeExpr κ → Prop) : Stmt ι → Stmt κ → Prop
  | expr {value : Expr ι} {value' : Expr κ} {loc : ι} {loc' : κ} : value.Like value' →
      Stmt.Like related (.expr value loc) (.expr value' loc')
  | decl {inner : LocalDecl ι} {inner' : LocalDecl κ} : inner.Like related inner' →
      Stmt.Like related (.decl inner) (.decl inner')
  | block {inner : Block ι} {inner' : Block κ} : Block.Like related inner inner' →
      Stmt.Like related (.block inner) (.block inner')
  | ret {value : Option (Expr ι)} {value' : Option (Expr κ)} {loc : ι} {loc' : κ} :
      Option.Rel Expr.Like value value' → Stmt.Like related (.ret value loc) (.ret value' loc')
  | throw {value : Expr ι} {value' : Expr κ} {loc : ι} {loc' : κ} : value.Like value' →
      Stmt.Like related (.throw value loc) (.throw value' loc')
  | rethrow {loc : ι} {loc' : κ} : Stmt.Like related (.rethrow loc) (.rethrow loc')
  | guarded {body : Block ι} {body' : Block κ} {handlers : List (Handler ι)}
      {handlers' : List (Handler κ)} {loc : ι} {loc' : κ} : Block.Like related body body' →
      List.Forall₂ (Handler.Like related) handlers handlers' →
      Stmt.Like related (.guarded body handlers loc) (.guarded body' handlers' loc')
  | branch {inner : Branch ι} {inner' : Branch κ} : Branch.Like related inner inner' →
      Stmt.Like related (.branch inner) (.branch inner')
  | while {condition : Expr ι} {condition' : Expr κ} {body : Block ι} {body' : Block κ} {loc : ι}
      {loc' : κ} : condition.Like condition' → Block.Like related body body' →
      Stmt.Like related (.while condition body loc) (.while condition' body' loc')
  | doWhile {condition : Expr ι} {condition' : Expr κ} {body : Block ι} {body' : Block κ} {loc : ι}
      {loc' : κ} : Block.Like related body body' → condition.Like condition' →
      Stmt.Like related (.doWhile body condition loc) (.doWhile body' condition' loc')
  | for {init : ForInit ι} {init' : ForInit κ} {condition step : Option (Expr ι)}
      {condition' step' : Option (Expr κ)} {body : Block ι} {body' : Block κ} {loc : ι} {loc' : κ} :
      init.Like related init' → Option.Rel Expr.Like condition condition' →
      Option.Rel Expr.Like step step' → Block.Like related body body' →
      Stmt.Like related (.for init condition step body loc) (.for init' condition' step' body' loc')
  | break {loc : ι} {loc' : κ} : Stmt.Like related (.break loc) (.break loc')
  | continue {loc : ι} {loc' : κ} : Stmt.Like related (.continue loc) (.continue loc')
  | empty {loc : ι} {loc' : κ} : Stmt.Like related (.empty loc) (.empty loc')

/-- Blocks that differ in locations and in types. -/
inductive Block.Like (related : TypeExpr ι → TypeExpr κ → Prop) : Block ι → Block κ → Prop
  | mk {statements : List (Stmt ι)} {statements' : List (Stmt κ)} {loc : ι} {loc' : κ} :
      List.Forall₂ (Stmt.Like related) statements statements' →
      Block.Like related (.mk statements loc) (.mk statements' loc')

/-- Handlers that differ in locations and in types. -/
inductive Handler.Like (related : TypeExpr ι → TypeExpr κ → Prop) : Handler ι → Handler κ → Prop
  | mk {type : Option (TypeExpr ι)} {type' : Option (TypeExpr κ)} {binder : Option String}
      {block : Block ι} {block' : Block κ} {loc : ι} {loc' : κ} : Option.Rel related type type' →
      Block.Like related block block' →
      Handler.Like related (.mk type binder block loc) (.mk type' binder block' loc')

/-- Conditions with their blocks that differ in locations and in types. -/
inductive Branch.Like (related : TypeExpr ι → TypeExpr κ → Prop) : Branch ι → Branch κ → Prop
  | mk {condition : Expr ι} {condition' : Expr κ} {whenTrue : Block ι} {whenTrue' : Block κ}
      {otherwise : Otherwise ι} {otherwise' : Otherwise κ} {loc : ι} {loc' : κ} :
      condition.Like condition' → Block.Like related whenTrue whenTrue' →
      Otherwise.Like related otherwise otherwise' →
      Branch.Like related (.mk condition whenTrue otherwise loc)
        (.mk condition' whenTrue' otherwise' loc')

/-- What follows a block, with differences in locations and in types. -/
inductive Otherwise.Like (related : TypeExpr ι → TypeExpr κ → Prop) :
    Otherwise ι → Otherwise κ → Prop
  | none : Otherwise.Like related .none .none
  | block {inner : Block ι} {inner' : Block κ} : Block.Like related inner inner' →
      Otherwise.Like related (.block inner) (.block inner')
  | chain {inner : Branch ι} {inner' : Branch κ} : Branch.Like related inner inner' →
      Otherwise.Like related (.chain inner) (.chain inner')

end

/-! ## Source texts -/

section Texts

variable (related : TypeExpr ι → TypeExpr κ → Prop) (relatedClauses : Clauses ι → Clauses κ → Prop)

/-- Functions that differ in locations, in types and in clauses. -/
structure FunctionDef.Like (definition : FunctionDef ι) (definition' : FunctionDef κ) : Prop where
  /-- They have the same name. -/
  name_eq : definition.name = definition'.name
  /-- Their parameters have the same names and related types. -/
  params : List.Forall₂ (fun param param' => related param.type param'.type ∧
    param.name = param'.name) definition.params definition'.params
  /-- The types that they return are related. -/
  returnType : related definition.returnType definition'.returnType
  /-- Their clauses are related. -/
  clauses : relatedClauses definition.clauses definition'.clauses
  /-- Their bodies are alike, or they have none. -/
  body : Option.Rel (Block.Like related) definition.body definition'.body

/-- Texts that differ in locations, in types and in clauses. -/
structure Program.Like (program : Program ι) (program' : Program κ) : Prop where
  /-- They declare the same exceptions. -/
  exceptions : List.Forall₂ (fun exception exception' => exception.name = exception'.name)
    program.exceptions program'.exceptions
  /-- They declare aliases of the same names for related types. -/
  aliases : List.Forall₂ (fun definition definition' => definition.name = definition'.name ∧
    related definition.target definition'.target) program.aliases program'.aliases
  /-- Their functions are alike. -/
  functions : List.Forall₂ (FunctionDef.Like related relatedClauses) program.functions
    program'.functions

end Texts

end Throws.Surface
