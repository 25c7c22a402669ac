import Throws.Proofs.Scanning
import Throws.Surface.Evaluate
import Throws.Surface.Precedence

/-!
# Printing

Every construct of the language is printed as a list of tokens, and a program as the text that has
its tokens in order with a blank between any two of them: exceptions first, then aliases, then
functions. An expression is put in parentheses exactly where it binds less tightly than its place
asks for (`Expr.level`, `enclosed`). Characters of a text in quotes are written as they are if they
are printable, and by an escape otherwise.

Not every tree can be written in the language: names have to be identifiers that are not keywords, a
number must not have too many digits, and so on. `Program.Expressible` collects these conditions.
-/

namespace Throws.Surface

variable {ι : Type}

/-! ## Tokens -/

/-- A token apart from its place: its kind and its characters. -/
abbrev Shape : Type := Terminal × List Char

/-- The token of a kind that has a spelling. -/
def Terminal.shape (terminal : Terminal) : Shape :=
  (terminal, ((spellings.find? (·.1 = terminal)).map (·.2.toList)).getD [])

/-- A name. -/
def nameShape (name : String) : Shape := (.name, name.toList)

/-- The kind of token that an operator is. -/
def BinaryOp.terminal : BinaryOp → Terminal
  | .or => .orOp
  | .and => .andOp
  | .eq | .ne => .eqOp
  | .le | .ge | .lt | .gt => .cmpOp
  | .plus => .plus
  | .minus => .minus
  | .star => .star
  | .slash => .slash
  | .percent => .percent

/-- The token of a connective. -/
def Connective.shape : Connective → Shape
  | .operator op => (op.terminal, op.symbol.toList)
  | .assign => Terminal.equal.shape

/-- The token of an operator with one operand. -/
def UnaryOp.shape : UnaryOp → Shape
  | .minus => Terminal.minus.shape
  | .bang => Terminal.bang.shape
  | .tilde => Terminal.tilde.shape

/-- Whether a code point is that of a printable character that can stand for itself in quotes. -/
def isPlain (point : Nat) : Bool :=
  0x20 ≤ point && point < 0x7f && point ≠ '"'.toNat && point ≠ '\\'.toNat

/-- How a code point is written in quotes. -/
def escaped (point : Nat) : List Char :=
  if isPlain point then [Char.ofNat point]
  else if point = '"'.toNat then ['\\', '"']
  else if point = '\\'.toNat then ['\\', '\\']
  else '\\' :: 'U' :: Text.hexDigits 8 point []

/-- A text in quotes. -/
def quoted (points : List Nat) : List Char := '"' :: (points.flatMap escaped ++ ['"'])

/-- The token of a literal. -/
def literalShape : Literal → Shape
  | .int value => (.int, Nat.toDigits 10 value.toNat)
  | .text points => (.string, quoted points)
  | .bool true => Terminal.kwTrue.shape
  | .bool false => Terminal.kwFalse.shape

/-! ## Lists and parentheses -/

/-- What follows the first entry of a list, up to its closing parenthesis. -/
def listTail : List (List Shape) → List Shape
  | [] => [Terminal.rpar.shape]
  | entry :: rest => Terminal.comma.shape :: (entry ++ listTail rest)

/-- A list behind its opening parenthesis. -/
def listShapes : List (List Shape) → List Shape
  | [] => [Terminal.rpar.shape]
  | entry :: rest => entry ++ listTail rest

/-- The given tokens in parentheses. -/
def inParens (shapes : List Shape) : List Shape :=
  Terminal.lpar.shape :: (shapes ++ [Terminal.rpar.shape])

/-- The given tokens, in parentheses if they are needed. -/
def enclosed (needed : Bool) (shapes : List Shape) : List Shape :=
  if needed then inParens shapes else shapes

/-! ## Types -/

/-- One entry of a `throws` clause. -/
def thrownShape : Option String → Shape
  | some name => nameShape name
  | none => Terminal.ellipsis.shape

/-- The entries of a `throws` clause; `none` is `...`. -/
def thrownEntries (names : List String) (wildcard : Bool) : List (Option String) :=
  names.map some ++ if wildcard then [none] else []

/-- A `throws` clause behind its first word. -/
def thrownShapes (names : List String) (wildcard : Bool) : List Shape :=
  Terminal.lpar.shape :: listShapes ((thrownEntries names wildcard).map fun entry =>
    [thrownShape entry])

/-- The clauses of a signature. -/
def Clauses.shapes (clauses : Clauses ι) : List Shape :=
  (clauses.throws.elim [] fun names =>
    Terminal.kwThrows.shape :: thrownShapes names clauses.wildcard) ++
    if clauses.noexcept then [Terminal.kwNoexcept.shape] else []

/-- A word that is there or not. -/
def optionalWord (present : Bool) (terminal : Terminal) : List Shape :=
  if present then [terminal.shape] else []

mutual

/-- A type. -/
def TypeExpr.shapes : TypeExpr ι → List Shape
  | .named name isConst isVolatile isRef _ =>
    optionalWord isConst .kwConst ++ (optionalWord isVolatile .kwVolatile ++
      nameShape name :: optionalWord isRef .amp)
  | .function params clauses _ =>
    Terminal.kwFn.shape :: Terminal.lpar.shape ::
      (listShapes (shapesOfTypes params) ++ clauses.shapes)

/-- Several types. -/
def shapesOfTypes : List (TypeExpr ι) → List (List Shape)
  | [] => []
  | type :: rest => type.shapes :: shapesOfTypes rest

end

/-! ## Expressions -/

/-- How tightly an expression binds. -/
def Expr.level : Expr ι → Nat
  | .assign _ _ _ => Connective.level .assign
  | .binary op _ _ _ => Connective.level (.operator op)
  | .unary _ _ _ => Connective.levels
  | .call _ _ _ | .name _ _ | .literal _ _ => Connective.levels + 1

/-- How tightly the left operand of a connective has to bind. -/
def Connective.leftLevel : Connective → Nat
  | .assign => Connective.level .assign + 1
  | .operator op => Connective.level (.operator op)

/-- How tightly the right operand of a connective has to bind. -/
def Connective.rightLevel : Connective → Nat
  | .assign => Connective.level .assign
  | .operator op => Connective.level (.operator op) + 1

mutual

/-- An expression, without parentheses around it. -/
def Expr.shapes : Expr ι → List Shape
  | .literal value _ => [literalShape value]
  | .name ident _ => [nameShape ident]
  | .call function args _ =>
    enclosed (function.level < Connective.levels + 1) function.shapes ++
      Terminal.lpar.shape :: listShapes (shapesOfExprs args)
  | .unary op operand _ => op.shape :: enclosed (operand.level < Connective.levels) operand.shapes
  | .binary op left right _ =>
    enclosed (left.level < Connective.leftLevel (.operator op)) left.shapes ++
      Connective.shape (.operator op) ::
        enclosed (right.level < Connective.rightLevel (.operator op)) right.shapes
  | .assign target value _ =>
    enclosed (target.level < Connective.leftLevel .assign) target.shapes ++
      Connective.shape .assign ::
        enclosed (value.level < Connective.rightLevel .assign) value.shapes

/-- Several expressions. -/
def shapesOfExprs : List (Expr ι) → List (List Shape)
  | [] => []
  | expr :: rest => expr.shapes :: shapesOfExprs rest

end

/-- An expression at a place that asks for a level. -/
def Expr.shapesAt (level : Nat) (expr : Expr ι) : List Shape :=
  enclosed (expr.level < level) expr.shapes

/-- An expression that may be left out. -/
def optionalShapes (value : Option (Expr ι)) : List Shape := value.elim [] Expr.shapes

/-! ## Statements -/

/-- A local variable. -/
def LocalDecl.shapes (decl : LocalDecl ι) : List Shape :=
  decl.type.shapes ++ nameShape decl.name ::
    decl.value.elim [] fun value => Terminal.equal.shape :: value.shapes

/-- The first part of a `for`. -/
def ForInit.shapes : ForInit ι → List Shape
  | .none => []
  | .expr value _ => value.shapes
  | .decl inner => inner.shapes

/-- What a `catch` names. -/
def caughtShapes (type : Option (TypeExpr ι)) (binder : Option String) : List Shape :=
  type.elim [Terminal.ellipsis.shape] fun type =>
    type.shapes ++ (binder.map nameShape).toList

mutual

/-- A statement. -/
def Stmt.shapes : Stmt ι → List Shape
  | .expr value _ => value.shapes ++ [Terminal.semicolon.shape]
  | .decl inner => inner.shapes ++ [Terminal.semicolon.shape]
  | .block inner => inner.shapes
  | .ret value _ => Terminal.kwReturn.shape :: (optionalShapes value ++ [Terminal.semicolon.shape])
  | .throw value _ => Terminal.kwThrow.shape :: (value.shapes ++ [Terminal.semicolon.shape])
  | .rethrow _ => [Terminal.kwThrow.shape, Terminal.semicolon.shape]
  | .guarded body handlers _ => Terminal.kwTry.shape :: (body.shapes ++ shapesOfHandlers handlers)
  | .branch inner => inner.shapes
  | .while condition body _ =>
    Terminal.kwWhile.shape :: (inParens condition.shapes ++ body.shapes)
  | .doWhile body condition _ =>
    Terminal.kwDo.shape :: (body.shapes ++ Terminal.kwWhile.shape ::
      (inParens condition.shapes ++ [Terminal.semicolon.shape]))
  | .for init condition step body _ =>
    Terminal.kwFor.shape :: Terminal.lpar.shape :: (init.shapes ++ Terminal.semicolon.shape ::
      (optionalShapes condition ++ Terminal.semicolon.shape ::
        (optionalShapes step ++ Terminal.rpar.shape :: body.shapes)))
  | .break _ => [Terminal.kwBreak.shape, Terminal.semicolon.shape]
  | .continue _ => [Terminal.kwContinue.shape, Terminal.semicolon.shape]
  | .empty _ => [Terminal.semicolon.shape]

/-- Several statements. -/
def shapesOfStmts : List (Stmt ι) → List Shape
  | [] => []
  | stmt :: rest => stmt.shapes ++ shapesOfStmts rest

/-- A block. -/
def Block.shapes : Block ι → List Shape
  | .mk statements _ =>
    Terminal.lbrace.shape :: (shapesOfStmts statements ++ [Terminal.rbrace.shape])

/-- A handler. -/
def Handler.shapes : Handler ι → List Shape
  | .mk type binder block _ =>
    Terminal.kwCatch.shape :: (inParens (caughtShapes type binder) ++ block.shapes)

/-- Several handlers. -/
def shapesOfHandlers : List (Handler ι) → List Shape
  | [] => []
  | handler :: rest => handler.shapes ++ shapesOfHandlers rest

/-- An `if`. -/
def Branch.shapes : Branch ι → List Shape
  | .mk condition whenTrue otherwise _ =>
    Terminal.kwIf.shape :: (inParens condition.shapes ++ (whenTrue.shapes ++ otherwise.shapes))

/-- What follows the block of an `if`. -/
def Otherwise.shapes : Otherwise ι → List Shape
  | .none => []
  | .block inner => Terminal.kwElse.shape :: inner.shapes
  | .chain inner => Terminal.kwElse.shape :: inner.shapes

end

/-! ## Programs -/

/-- A parameter of a function. -/
def Param.shapes (param : Param ι) : List Shape :=
  param.type.shapes ++ (param.name.map nameShape).toList

/-- A function. -/
def FunctionDef.shapes (function : FunctionDef ι) : List Shape :=
  function.returnType.shapes ++ nameShape function.name :: Terminal.lpar.shape ::
    (listShapes (function.params.map Param.shapes) ++ (function.clauses.shapes ++
      function.body.elim [Terminal.semicolon.shape] Block.shapes))

/-- A declaration. -/
def Item.shapes : Item ι → List Shape
  | .exception definition =>
    [Terminal.kwException.shape, nameShape definition.name, Terminal.semicolon.shape]
  | .alias definition =>
    Terminal.kwUsing.shape :: nameShape definition.name :: Terminal.equal.shape ::
      (definition.target.shapes ++ [Terminal.semicolon.shape])
  | .function definition => definition.shapes

/-- The declarations of a program in the order in which they are printed. -/
def Program.items (program : Program ι) : List (Item ι) :=
  program.exceptions.map .exception ++
    (program.aliases.map .alias ++ program.functions.map .function)

/-- The text of a program. -/
def Program.print (program : Program ι) : String :=
  String.ofList (Text.spaced ((program.items.flatMap Item.shapes).map (·.2)))

/-! ## Trees that can be written -/

/-- A name that can be told from a keyword. -/
structure IsName (name : String) : Prop where
  /-- It is an identifier. -/
  identifier : IsIdentifier name
  /-- It is not a keyword. -/
  not_keyword : ∀ entry ∈ Terminal.keywords, entry.2 ≠ name

/-- Whether a text is such a name. -/
def isName (name : String) : Bool :=
  name.toList.head?.any isWordStart && name.toList.tail.all isWordPart &&
    Terminal.keywords.all (·.2 ≠ name)

theorem isName_iff {name : String} : isName name = true ↔ IsName name := by
  simp only [isName, Bool.and_eq_true, Option.any_eq_true, List.all_eq_true, decide_eq_true_eq]
  constructor
  · rintro ⟨⟨⟨first, hfirst, hstart⟩, hrest⟩, hkeyword⟩
    obtain ⟨rest, hcons⟩ := List.head?_eq_some_iff.mp hfirst
    rw [hcons] at hrest
    exact ⟨⟨first, rest, hcons, hstart, hrest⟩, hkeyword⟩
  · rintro ⟨⟨first, rest, hcons, hstart, hrest⟩, hkeyword⟩
    rw [hcons]
    exact ⟨⟨⟨first, rfl, hstart⟩, hrest⟩, hkeyword⟩

instance (name : String) : Decidable (IsName name) := decidable_of_iff _ isName_iff

/-- A literal that can be written: numbers are not negative and not too long, and the code points of
a text are code points. -/
inductive IsWritable : Literal → Prop
  | int {value : Nat} : (Nat.toDigits 10 value).length ≤ maxDigits → IsWritable (.int value)
  | text {points : List Nat} : (∀ point ∈ points, point < 0x110000) → IsWritable (.text points)
  | bool (value : Bool) : IsWritable (.bool value)

/-- Clauses that can be written. -/
structure Clauses.Expressible (clauses : Clauses ι) : Prop where
  /-- What is thrown has names. -/
  names : ∀ names ∈ clauses.throws, ∀ name ∈ names, IsName name
  /-- The wildcard stands in a `throws` clause. -/
  wildcard : clauses.wildcard = true → clauses.throws.isSome = true
  /-- There is a place for the clauses if there are clauses. -/
  loc : clauses.loc.isSome = (clauses.throws.isSome || clauses.noexcept)

/-- A type that can be written. -/
inductive TypeExpr.Expressible : TypeExpr ι → Prop
  | named {name : String} {isConst isVolatile isRef : Bool} {loc : ι} :
      IsName name → Expressible (.named name isConst isVolatile isRef loc)
  | function {params : List (TypeExpr ι)} {clauses : Clauses ι} {loc : ι} :
      (∀ param ∈ params, Expressible param) → clauses.Expressible →
      Expressible (.function params clauses loc)

/-- An expression that can be written. -/
inductive Expr.Expressible : Expr ι → Prop
  | literal {value : Literal} {loc : ι} : IsWritable value → Expressible (.literal value loc)
  | name {ident : String} {loc : ι} : IsName ident → Expressible (.name ident loc)
  | call {function : Expr ι} {args : List (Expr ι)} {loc : ι} : Expressible function →
      (∀ arg ∈ args, Expressible arg) → Expressible (.call function args loc)
  | unary {op : UnaryOp} {operand : Expr ι} {loc : ι} : Expressible operand →
      Expressible (.unary op operand loc)
  | binary {op : BinaryOp} {left right : Expr ι} {loc : ι} : Expressible left →
      Expressible right → Expressible (.binary op left right loc)
  | assign {target value : Expr ι} {loc : ι} : Expressible target → Expressible value →
      Expressible (.assign target value loc)

/-- A local variable that can be written. -/
structure LocalDecl.Expressible (decl : LocalDecl ι) : Prop where
  /-- Its type. -/
  type : decl.type.Expressible
  /-- Its name. -/
  name : IsName decl.name
  /-- Its first value, if there is one. -/
  value : ∀ value ∈ decl.value, value.Expressible

/-- The first part of a `for` that can be written. -/
inductive ForInit.Expressible : ForInit ι → Prop
  | none : Expressible .none
  | expr {value : Expr ι} {loc : ι} : value.Expressible → Expressible (.expr value loc)
  | decl {inner : LocalDecl ι} : inner.Expressible → Expressible (.decl inner)

mutual

/-- A statement that can be written. -/
inductive Stmt.Expressible : Stmt ι → Prop
  | expr {value : Expr ι} {loc : ι} : value.Expressible → Stmt.Expressible (.expr value loc)
  | decl {inner : LocalDecl ι} : inner.Expressible → Stmt.Expressible (.decl inner)
  | block {inner : Block ι} : Block.Expressible inner → Stmt.Expressible (.block inner)
  | ret {value : Option (Expr ι)} {loc : ι} : (∀ expr ∈ value, expr.Expressible) →
      Stmt.Expressible (.ret value loc)
  | throw {value : Expr ι} {loc : ι} : value.Expressible → Stmt.Expressible (.throw value loc)
  | rethrow {loc : ι} : Stmt.Expressible (.rethrow loc)
  | guarded {body : Block ι} {handlers : List (Handler ι)} {loc : ι} : Block.Expressible body →
      handlers ≠ [] → (∀ handler ∈ handlers, Handler.Expressible handler) →
      Stmt.Expressible (.guarded body handlers loc)
  | branch {inner : Branch ι} : Branch.Expressible inner → Stmt.Expressible (.branch inner)
  | while {condition : Expr ι} {body : Block ι} {loc : ι} : condition.Expressible →
      Block.Expressible body → Stmt.Expressible (.while condition body loc)
  | doWhile {body : Block ι} {condition : Expr ι} {loc : ι} : Block.Expressible body →
      condition.Expressible → Stmt.Expressible (.doWhile body condition loc)
  | for {init : ForInit ι} {condition step : Option (Expr ι)} {body : Block ι} {loc : ι} :
      init.Expressible → (∀ expr ∈ condition, expr.Expressible) →
      (∀ expr ∈ step, expr.Expressible) → Block.Expressible body →
      Stmt.Expressible (.for init condition step body loc)
  | break {loc : ι} : Stmt.Expressible (.break loc)
  | continue {loc : ι} : Stmt.Expressible (.continue loc)
  | empty {loc : ι} : Stmt.Expressible (.empty loc)

/-- A block that can be written. -/
inductive Block.Expressible : Block ι → Prop
  | mk {statements : List (Stmt ι)} {loc : ι} : (∀ stmt ∈ statements, Stmt.Expressible stmt) →
      Block.Expressible (.mk statements loc)

/-- A handler that can be written: where there is no type there is no name for the value. -/
inductive Handler.Expressible : Handler ι → Prop
  | all {block : Block ι} {loc : ι} : Block.Expressible block →
      Handler.Expressible (.mk none none block loc)
  | typed {type : TypeExpr ι} {binder : Option String} {block : Block ι} {loc : ι} :
      type.Expressible → (∀ name ∈ binder, IsName name) → Block.Expressible block →
      Handler.Expressible (.mk (some type) binder block loc)

/-- An `if` that can be written. -/
inductive Branch.Expressible : Branch ι → Prop
  | mk {condition : Expr ι} {whenTrue : Block ι} {otherwise : Otherwise ι} {loc : ι} :
      condition.Expressible → Block.Expressible whenTrue → Otherwise.Expressible otherwise →
      Branch.Expressible (.mk condition whenTrue otherwise loc)

/-- What can be written behind the block of an `if`. -/
inductive Otherwise.Expressible : Otherwise ι → Prop
  | none : Otherwise.Expressible .none
  | block {inner : Block ι} : Block.Expressible inner → Otherwise.Expressible (.block inner)
  | chain {inner : Branch ι} : Branch.Expressible inner → Otherwise.Expressible (.chain inner)

end

/-- A parameter that can be written. -/
structure Param.Expressible (param : Param ι) : Prop where
  /-- Its type. -/
  type : param.type.Expressible
  /-- Its name, if there is one. -/
  name : ∀ name ∈ param.name, IsName name

/-- A function that can be written. -/
structure FunctionDef.Expressible (function : FunctionDef ι) : Prop where
  /-- Its name. -/
  name : IsName function.name
  /-- Its parameters. -/
  params : ∀ param ∈ function.params, param.Expressible
  /-- The type it returns. -/
  returnType : function.returnType.Expressible
  /-- Its clauses. -/
  clauses : function.clauses.Expressible
  /-- Its body, if there is one. -/
  body : ∀ body ∈ function.body, body.Expressible

/-- A program that can be written. -/
structure Program.Expressible (program : Program ι) : Prop where
  /-- The names of exceptions. -/
  exceptions : ∀ exception ∈ program.exceptions, IsName exception.name
  /-- The aliases with what they stand for. -/
  aliases : ∀ definition ∈ program.aliases, IsName definition.name ∧ definition.target.Expressible
  /-- The functions. -/
  functions : ∀ function ∈ program.functions, function.Expressible

end Throws.Surface
