import Throws.Proofs.ExpressionReading

/-!
# Reading printed statements

A printed statement is read back, locations aside, where it is followed by a token that begins a
statement or ends a block (`reads_statement`), and so is a block (`reads_block`).

A statement that begins with a name can be a declaration or an expression. The token behind the name
decides, and `Expr.leading_cases` says what that token is.
-/

namespace Throws.Surface.Grammar

open Throws.Surface.Parser

variable {ρ : Type} {stop : Terminal}

/-! ## Declarations and expressions -/

/-- A local variable is read back behind its type. -/
theorem reads_declaration {n : Nat} {decl : LocalDecl Unit} {type : TypeExpr Nat} {loc : Nat}
    (h : decl.Expressible) (htype : type.mapLoc (fun _ => ()) = decl.type)
    (hn : 4 * decl.shapes.length ≤ n) :
    Reads (declaration n type loc : Parser ρ _)
      (nameShape decl.name ::
        decl.value.elim [] fun value => Terminal.equal.shape :: value.shapes) .semicolon
      fun result => result.mapLoc (fun _ => ()) = decl := by
  obtain ⟨declType, name, value, loc'⟩ := decl
  obtain ⟨_, hname, hvalue⟩ := h
  cases value with
  | none =>
    have hstop : (.semicolon : Terminal) ∈ .endOfText :: Follow.initializer := by decide
    refine .expect (.name hname) rfl hstop fun lexeme hlexeme => ?_
    refine .peek .semicolon rfl (.pure ?_)
    rw [name_of_text hlexeme, LocalDecl.mapLoc, htype]
    rfl
  | some value =>
    rw [LocalDecl.shapes, List.length_append, List.length_cons, Option.elim_some,
      List.length_cons] at hn
    refine .expect (.name hname) rfl (List.mem_cons_of_mem _ List.mem_cons_self)
      fun lexeme hlexeme => ?_
    refine .peek .equal rfl (.take (isPrinted_shape rfl)
      (List.mem_cons_of_mem _ (ahead_expr value)) fun _ _ => ?_)
    refine .map (reads_expression n (hvalue value rfl) (by omega) (by decide))
      fun result hresult => ?_
    rw [name_of_text hlexeme, LocalDecl.mapLoc, htype, Option.map_some]
    exact congrArg (fun value => LocalDecl.mk declType name (some value) ()) hresult

/-- A declaration is read back up to its semicolon. -/
theorem reads_simple_decl {n : Nat} {decl : LocalDecl Unit} (h : decl.Expressible)
    (hn : 4 * decl.shapes.length + 2 ≤ n) :
    Reads (simple n : Parser ρ _) decl.shapes .semicolon fun result =>
      ∃ read, result = .decl read ∧ read.mapLoc (fun _ => ()) = decl := by
  have hdeclaration : ∀ (type : TypeExpr Nat) (loc : Nat),
      type.mapLoc (fun _ => ()) = decl.type →
      Reads (do return .decl (← declaration n type loc) : Parser ρ Simple)
        (nameShape decl.name ::
          decl.value.elim [] fun value => Terminal.equal.shape :: value.shapes) .semicolon
        fun result => ∃ read, result = .decl read ∧ read.mapLoc (fun _ => ()) = decl :=
    fun type loc htype => .map (reads_declaration h htype (by omega)) fun read hread =>
      ⟨read, rfl, hread⟩
  have htyped : Reads (do
      let type ← type n
      return .decl (← declaration n type (typeLoc type)) : Parser ρ Simple)
      decl.shapes .semicolon
      fun result => ∃ read, result = .decl read ∧ read.mapLoc (fun _ => ()) = decl := by
    rw [LocalDecl.shapes, List.length_append] at hn
    exact .bind (reads_type n h.type (by omega) List.mem_cons_self) fun type htype =>
      hdeclaration type _ htype
  obtain ⟨type, name, value, loc⟩ := decl
  cases h.type with
  | function => exact .peek .kwFn rfl htyped
  | @named typeName isConst isVolatile isRef typeLoc htypeName =>
    cases isConst with
    | true => exact .peek .kwConst rfl htyped
    | false =>
      cases isVolatile with
      | true => exact .peek .kwVolatile rfl htyped
      | false =>
        -- The name of the type is taken before it is known to be one.
        cases isRef with
        | false =>
          refine .peek .name rfl (.take (.name htypeName)
            (List.mem_cons_of_mem _ List.mem_cons_self) fun token htoken => .peek .name rfl ?_)
          exact hdeclaration _ _ (by rw [name_of_text htoken]; rfl)
        | true =>
          refine .peek .name rfl (.take (.name htypeName)
            (List.mem_cons_of_mem _ (List.mem_cons_of_mem _ List.mem_cons_self))
            fun token htoken => .peek .amp rfl ?_)
          refine .take (isPrinted_shape rfl) (List.mem_cons_of_mem _ List.mem_cons_self)
            fun _ _ => ?_
          exact hdeclaration _ _ (by rw [name_of_text htoken]; rfl)

/-- An expression is read back up to its semicolon. -/
theorem reads_simple_expr {n : Nat} {expr : Expr Unit} (h : expr.Expressible)
    (hn : 4 * expr.shapes.length + 2 ≤ n) :
    Reads (simple n : Parser ρ _) expr.shapes .semicolon fun result =>
      ∃ operand, result = .expr operand ∧ operand.unlocated = expr := by
  rcases expr.spine.1.leading_cases with ⟨ident, loc, hcallee, hshapes⟩ | hfirst
  · -- The name may have been that of a type until the token behind it is seen.
    have hident : IsName ident := by
      have hexpressible := h.spine.1.callSpine.1
      rw [hcallee] at hexpressible
      cases hexpressible with
      | name hname => exact hname
    have hlead := ahead_behindName expr.spine.1.callSpine.2 expr.spine.2
    have hsubset : ∀ terminal ∈ .semicolon :: Follow.operator,
        terminal ∈ .endOfText :: Follow.leadingName := by decide
    rw [Expr.shapes_eq_spine, hshapes, List.cons_append, List.length_cons] at hn
    rw [Expr.shapes_eq_spine, hshapes, List.cons_append]
    refine .peek .name rfl (.take (.name hident) (hsubset _ hlead) fun token htoken => ?_)
    have hfrom : Reads (do return .expr (← expressionFrom n token) : Parser ρ Simple)
        (expr.spine.1.callSpine.2.flatMap argumentShapes ++ expr.spine.2.flatMap linkShapes)
        .semicolon fun result => ∃ operand, result = .expr operand ∧ operand.unlocated = expr :=
      .map (reads_expressionFrom h hcallee htoken (by omega) (by decide)) fun operand hoperand =>
        ⟨operand, rfl, hoperand⟩
    refine .peek_mem hlead fun terminal hterminal => ?_
    fin_cases hterminal <;> exact hfrom
  · have hread : Reads (do return .expr (← expression n) : Parser ρ Simple) expr.shapes .semicolon
        fun result => ∃ operand, result = .expr operand ∧ operand.unlocated = expr :=
      .map (reads_expression n h hn (by decide)) fun operand hoperand => ⟨operand, rfl, hoperand⟩
    have hfirst' : ahead expr.shapes .semicolon ∈ Follow.operand.erase .name := by
      rw [Expr.shapes_eq_spine, ahead_append]
      exact hfirst _
    refine .peek_mem hfirst' fun terminal hterminal => ?_
    fin_cases hterminal <;> exact hread

/-- An expression that may be left out is read back. -/
theorem reads_optional {n : Nat} {value : Option (Expr Unit)}
    (h : ∀ expr ∈ value, expr.Expressible) (hn : 4 * (optionalShapes value).length + 2 ≤ n)
    (hstop : stop ∈ afterExpression) :
    Reads (optional n stop : Parser ρ _) (optionalShapes value) stop
      fun result => result.map (·.mapLoc fun _ => ()) = value := by
  cases value with
  | none => exact .peek_eq rfl (.pure rfl)
  | some expr =>
    have hdisjoint : ∀ terminal ∈ afterExpression, terminal ∉ Follow.operand := by decide
    refine .peek_ne (ne_of_mem_of_not_mem (ahead_expr expr) (hdisjoint stop hstop)) ?_
    exact .map (reads_expression n (h expr rfl) hn hstop) fun result hresult =>
      congrArg some hresult

/-- The first part of a `for` is read back. -/
theorem reads_forInit {n : Nat} {init : ForInit Unit} (h : init.Expressible)
    (hn : 4 * init.shapes.length + 2 ≤ n) :
    Reads (forInit n : Parser ρ _) init.shapes .semicolon
      fun result => result.mapLoc (fun _ => ()) = init := by
  cases h with
  | none => exact .peek .semicolon rfl (.pure rfl)
  | @expr value loc hvalue =>
    refine .peek_ne (ne_of_mem_of_not_mem (ahead_expr value) (by decide)) ?_
    refine .last (reads_simple_expr hvalue hn) fun result hresult => ?_
    obtain ⟨operand, rfl, hoperand⟩ := hresult
    exact .pure (congrArg (ForInit.expr · ()) hoperand)
  | @decl inner hinner =>
    refine .peek_ne (ne_of_mem_of_not_mem (ahead_type inner.type _) (by decide)) ?_
    refine .last (reads_simple_decl hinner hn) fun result hresult => ?_
    obtain ⟨read, rfl, hread⟩ := hresult
    exact .pure (congrArg ForInit.decl hread)

/-- A condition in parentheses is read back. -/
theorem reads_condition {n : Nat} {expr : Expr Unit} {sought : List Terminal}
    (h : expr.Expressible) (hn : 4 * (inParens expr.shapes).length ≤ n)
    (hstop : stop ∈ sought) :
    Reads (condition n sought : Parser ρ _) (inParens expr.shapes) stop
      fun result => result.mapLoc (fun _ => ()) = expr := by
  rw [inParens, List.length_cons, List.length_append, List.length_singleton] at hn
  refine .expect (isPrinted_shape rfl) rfl (List.mem_cons_of_mem _ (ahead_expr_append expr _))
    fun _ _ => ?_
  refine .bind (reads_expression n h (by omega) (by decide : Terminal.rpar ∈ afterExpression))
    fun operand hoperand => ?_
  exact .expect (isPrinted_shape rfl) rfl (List.mem_cons_of_mem _ hstop) fun _ _ => .pure hoperand

/-- What a `catch` names is read back. -/
theorem reads_caught {n : Nat} {type : Option (TypeExpr Unit)} {binder : Option String}
    (htype : ∀ type' ∈ type, type'.Expressible) (hbinder : ∀ name ∈ binder, IsName name)
    (hnone : type = none → binder = none)
    (hn : 4 * (caughtShapes type binder).length + 2 ≤ n) :
    Reads (caught n : Parser ρ _) (caughtShapes type binder) .rpar
      fun result => result.1.map (·.mapLoc fun _ => ()) = type ∧ result.2 = binder := by
  cases type with
  | none =>
    obtain rfl := hnone rfl
    exact .peek_eq rfl (.take (isPrinted_shape rfl) (by decide) fun _ _ => .pure ⟨rfl, rfl⟩)
  | some type =>
    rw [caughtShapes, Option.elim_some, List.length_append] at hn
    refine .peek_ne (ne_of_mem_of_not_mem (ahead_type type _) (by decide)) ?_
    cases binder with
    | none =>
      refine .bind (reads_type n (htype type rfl) (by omega) (by decide)) fun result hresult => ?_
      exact .peek .rpar rfl (.pure ⟨congrArg some hresult, rfl⟩)
    | some name =>
      refine .bind (reads_type n (htype type rfl) (by omega) List.mem_cons_self)
        fun result hresult => ?_
      refine .peek_eq rfl (.take (.name (hbinder name rfl)) (by decide)
        fun token htoken => .pure ?_)
      exact ⟨congrArg some hresult, congrArg some (name_of_text htoken)⟩

/-! ## Statements -/

/-- What begins a statement. -/
def beginsStatement : List Terminal := Follow.statement.erase .rbrace

theorem type_subset : ∀ terminal ∈ Follow.type, terminal ∈ beginsStatement := by decide

theorem operand_subset : ∀ terminal ∈ Follow.operand, terminal ∈ beginsStatement := by decide

theorem statement_subset : ∀ terminal ∈ Follow.statement, terminal ∈ Follow.afterBlock := by decide

/-- A statement begins with a token that can begin a statement. -/
theorem ahead_stmt {ι : Type} (stmt : Stmt ι) :
    ahead stmt.shapes stop ∈ beginsStatement := by
  cases stmt with
  | expr value => exact operand_subset _ (ahead_expr_append value _)
  | decl inner =>
    rw [Stmt.shapes, LocalDecl.shapes, List.append_assoc]
    exact type_subset _ (ahead_type inner.type _)
  | block inner =>
    obtain ⟨statements, loc⟩ := inner
    exact (by decide : Terminal.lbrace ∈ beginsStatement)
  | branch inner =>
    obtain ⟨condition, whenTrue, otherwise, loc⟩ := inner
    exact (by decide : Terminal.kwIf ∈ beginsStatement)
  | ret => exact (by decide : Terminal.kwReturn ∈ beginsStatement)
  | throw | rethrow => exact (by decide : Terminal.kwThrow ∈ beginsStatement)
  | guarded => exact (by decide : Terminal.kwTry ∈ beginsStatement)
  | «while» => exact (by decide : Terminal.kwWhile ∈ beginsStatement)
  | doWhile => exact (by decide : Terminal.kwDo ∈ beginsStatement)
  | «for» => exact (by decide : Terminal.kwFor ∈ beginsStatement)
  | «break» => exact (by decide : Terminal.kwBreak ∈ beginsStatement)
  | «continue» => exact (by decide : Terminal.kwContinue ∈ beginsStatement)
  | empty => exact (by decide : Terminal.semicolon ∈ beginsStatement)

/-- What stands behind the brace that opens a block. -/
theorem ahead_stmts {ι : Type} (stmts : List (Stmt ι)) :
    ahead (shapesOfStmts stmts ++ [Terminal.rbrace.shape]) stop ∈ Follow.statement := by
  cases stmts with
  | nil => exact (by decide : Terminal.rbrace ∈ Follow.statement)
  | cons stmt stmts =>
    rw [shapesOfStmts, List.append_assoc, ahead_append]
    exact List.mem_of_mem_erase (ahead_stmt stmt)

theorem ahead_handler {ι : Type} (handler : Handler ι) (rest : List Shape) :
    ahead (handler.shapes ++ rest) stop = .kwCatch := by
  obtain ⟨type, binder, block, loc⟩ := handler
  rfl

theorem ahead_block_mem {ι : Type} (block : Block ι) :
    ahead block.shapes stop ∈ [Terminal.lbrace] := by
  obtain ⟨statements, loc⟩ := block
  exact List.mem_cons_self

theorem ahead_block_append {ι : Type} (block : Block ι) (rest : List Shape) :
    ahead (block.shapes ++ rest) stop ∈ [Terminal.lbrace] := by
  rw [ahead_append]
  exact ahead_block_mem block

theorem ahead_handlers {ι : Type} (handlers : List (Handler ι)) (hstop : stop ∈ Follow.statement) :
    ahead (shapesOfHandlers handlers) stop ∈ .endOfText :: Follow.afterBlock := by
  cases handlers with
  | nil => exact List.mem_cons_of_mem _ (statement_subset stop hstop)
  | cons handler handlers =>
    rw [shapesOfHandlers, ahead_handler]
    decide

theorem ahead_otherwise {ι : Type} (otherwise : Otherwise ι) (hstop : stop ∈ Follow.statement) :
    ahead otherwise.shapes stop ∈ .endOfText :: Follow.afterBlock := by
  cases otherwise with
  | none => exact List.mem_cons_of_mem _ (statement_subset stop hstop)
  | block | chain => exact (by decide : Terminal.kwElse ∈ .endOfText :: Follow.afterBlock)

theorem ahead_forInit {ι : Type} (init : ForInit ι) (rest : List Shape) :
    ahead (init.shapes ++ Terminal.semicolon.shape :: rest) stop ∈ Follow.forInit := by
  cases init with
  | none => exact List.mem_cons_self
  | expr value =>
    exact List.mem_cons_of_mem _ (List.mem_append_right _ (ahead_expr_append value _))
  | decl inner =>
    rw [ForInit.shapes, LocalDecl.shapes, List.append_assoc]
    exact List.mem_cons_of_mem _ (List.mem_append_left _ (ahead_type inner.type _))

theorem ahead_caught {ι : Type} (type : Option (TypeExpr ι)) (binder : Option String)
    (rest : List Shape) : ahead (caughtShapes type binder ++ rest) stop ∈ Follow.caught := by
  cases type with
  | none => exact List.mem_cons_self
  | some type =>
    rw [caughtShapes, Option.elim_some, List.append_assoc]
    exact List.mem_cons_of_mem _ (ahead_type type _)

/-- What is known of the parts of a handler that can be written. -/
theorem expressible_parts {ι : Type} {type : Option (TypeExpr ι)} {binder : Option String}
    {block : Block ι} {loc : ι} (h : (Handler.mk type binder block loc).Expressible) :
    (∀ type' ∈ type, type'.Expressible) ∧ (∀ name ∈ binder, IsName name) ∧
      (type = none → binder = none) ∧ block.Expressible := by
  cases h with
  | all hblock => exact ⟨nofun, nofun, fun _ => rfl, hblock⟩
  | typed htype hbinder hblock =>
    exact ⟨fun _ hmem => Option.mem_some_iff.mp hmem ▸ htype, hbinder, nofun, hblock⟩

theorem length_handler_pos {ι : Type} (handler : Handler ι) : 1 ≤ handler.shapes.length := by
  obtain ⟨type, binder, block, loc⟩ := handler
  exact Nat.le_add_left _ _

/-- A part of a statement is read back with the semicolon behind it. -/
theorem reads_terminated {α β : Type} {parser : Parser ρ α} {next : α → Parser ρ β}
    {shapes : List Shape} {good : α → Prop} {good' : β → Prop}
    (h : Reads parser shapes .semicolon good) (hstop : stop ∈ Follow.statement)
    (hnext : ∀ a, good a → Reads (next a) [] stop good') :
    Reads (do
      let a ← parser
      let _ ← expect .semicolon Follow.statement
      next a) (shapes ++ [Terminal.semicolon.shape]) stop good' := by
  refine .bind h fun a ha => ?_
  exact .expect (isPrinted_shape rfl) rfl (List.mem_cons_of_mem _ hstop) fun _ _ => hnext a ha

theorem reads_statement_expr {n : Nat} {value : Expr Unit} {loc : Unit} (h : value.Expressible)
    (hn : 4 * value.shapes.length + 2 ≤ n) (hstop : stop ∈ Follow.statement) :
    Reads (statement (n + 1) : Parser ρ _) (Stmt.expr value loc).shapes stop
      fun result => result.mapLoc (fun _ => ()) = .expr value loc := by
  refine .peek_mem (ahead_expr_append value _) fun terminal hterminal => ?_
  fin_cases hterminal <;> refine reads_terminated (reads_simple_expr h hn) hstop ?_ <;>
    rintro _ ⟨operand, rfl, hoperand⟩ <;> exact .pure (congrArg (Stmt.expr · ()) hoperand)

theorem reads_statement_decl {n : Nat} {decl : LocalDecl Unit} (h : decl.Expressible)
    (hn : 4 * decl.shapes.length + 2 ≤ n) (hstop : stop ∈ Follow.statement) :
    Reads (statement (n + 1) : Parser ρ _) (Stmt.decl decl).shapes stop
      fun result => result.mapLoc (fun _ => ()) = .decl decl := by
  have hfirst : ahead (Stmt.decl decl).shapes stop ∈ Follow.type := by
    rw [Stmt.shapes, LocalDecl.shapes, List.append_assoc]
    exact ahead_type decl.type _
  refine .peek_mem hfirst fun terminal hterminal => ?_
  fin_cases hterminal <;> refine reads_terminated (reads_simple_decl h hn) hstop ?_ <;>
    rintro _ ⟨read, rfl, hread⟩ <;> exact .pure (congrArg Stmt.decl hread)

theorem ahead_optional {ι : Type} (value : Option (Expr ι)) (shape : Shape) (rest : List Shape) :
    ahead (optionalShapes value ++ shape :: rest) stop ∈ shape.1 :: Follow.operand := by
  cases value with
  | none => exact List.mem_cons_self
  | some expr => exact List.mem_cons_of_mem _ (ahead_expr_append expr _)

theorem reads_statement_ret {n : Nat} {value : Option (Expr Unit)} {loc : Unit}
    (h : ∀ expr ∈ value, expr.Expressible) (hn : 4 * (optionalShapes value).length + 2 ≤ n)
    (hstop : stop ∈ Follow.statement) :
    Reads (statement (n + 1) : Parser ρ _) (Stmt.ret value loc).shapes stop
      fun result => result.mapLoc (fun _ => ()) = .ret value loc := by
  refine .peek .kwReturn rfl (.take (isPrinted_shape rfl)
    (List.mem_cons_of_mem _ (ahead_optional value _ _)) fun head _ => ?_)
  exact reads_terminated (reads_optional h hn (by decide)) hstop fun result hresult =>
    .pure (congrArg (Stmt.ret · ()) hresult)

theorem reads_statement_throw {n : Nat} {value : Expr Unit} {loc : Unit} (h : value.Expressible)
    (hn : 4 * value.shapes.length + 2 ≤ n) (hstop : stop ∈ Follow.statement) :
    Reads (statement (n + 1) : Parser ρ _) (Stmt.throw value loc).shapes stop
      fun result => result.mapLoc (fun _ => ()) = .throw value loc := by
  have hvalue : ∀ expr ∈ some value, expr.Expressible := fun expr hexpr =>
    Option.mem_some_iff.mp hexpr ▸ h
  refine .peek .kwThrow rfl (.take (isPrinted_shape rfl)
    (List.mem_cons_of_mem _ (ahead_optional (some value) _ _)) fun head _ => ?_)
  refine reads_terminated (reads_optional hvalue hn (by decide)) hstop fun result hresult => ?_
  obtain ⟨read, rfl, hread⟩ := Option.map_eq_some_iff.mp hresult
  exact .pure (congrArg (Stmt.throw · ()) hread)

theorem reads_statement_rethrow {n : Nat} {loc : Unit} (hn : 2 ≤ n)
    (hstop : stop ∈ Follow.statement) :
    Reads (statement (n + 1) : Parser ρ _) (Stmt.rethrow loc).shapes stop
      fun result => result.mapLoc (fun _ => ()) = .rethrow loc := by
  have hvalue : ∀ expr ∈ (none : Option (Expr Unit)), expr.Expressible := nofun
  refine .peek .kwThrow rfl (.take (isPrinted_shape rfl)
    (List.mem_cons_of_mem _ List.mem_cons_self) fun head _ => ?_)
  refine reads_terminated (reads_optional hvalue hn (by decide)) hstop fun result hresult => ?_
  obtain rfl := Option.map_eq_none_iff.mp hresult
  exact .pure rfl

theorem reads_statement_while {n : Nat} {condition : Expr Unit} {body : Block Unit} {loc : Unit}
    (hcondition : condition.Expressible) (hn : 4 * (inParens condition.shapes).length ≤ n)
    (hbody : Reads (Grammar.block n : Parser ρ _) body.shapes stop
      fun result => result.mapLoc (fun _ => ()) = body) :
    Reads (statement (n + 1) : Parser ρ _) (Stmt.while condition body loc).shapes stop
      fun result => result.mapLoc (fun _ => ()) = .while condition body loc := by
  refine .peek .kwWhile rfl (.take (isPrinted_shape rfl)
    (List.mem_cons_of_mem _ List.mem_cons_self) fun head _ => ?_)
  refine .bind (reads_condition hcondition hn (ahead_block_mem body))
    fun condition' hcondition' => ?_
  refine .map hbody fun body' hbody' => ?_
  rw [Stmt.mapLoc, hcondition', hbody']

theorem reads_statement_doWhile {n : Nat} {body : Block Unit} {condition : Expr Unit} {loc : Unit}
    (hbody : Reads (Grammar.block n : Parser ρ _) body.shapes .kwWhile
      fun result => result.mapLoc (fun _ => ()) = body)
    (hcondition : condition.Expressible) (hn : 4 * (inParens condition.shapes).length ≤ n)
    (hstop : stop ∈ Follow.statement) :
    Reads (statement (n + 1) : Parser ρ _) (Stmt.doWhile body condition loc).shapes stop
      fun result => result.mapLoc (fun _ => ()) = .doWhile body condition loc := by
  refine .peek .kwDo rfl (.take (isPrinted_shape rfl)
    (List.mem_cons_of_mem _ (ahead_block_append body _)) fun head _ => ?_)
  refine .bind hbody fun body' hbody' => ?_
  refine .expect (isPrinted_shape rfl) rfl (List.mem_cons_of_mem _ List.mem_cons_self)
    fun _ _ => ?_
  refine reads_terminated (reads_condition hcondition hn List.mem_cons_self) hstop
    fun condition' hcondition' => .pure ?_
  rw [Stmt.mapLoc, hcondition', hbody']

theorem reads_statement_for {n : Nat} {init : ForInit Unit} {condition step : Option (Expr Unit)}
    {body : Block Unit} {loc : Unit} (hinit : init.Expressible)
    (hcondition : ∀ expr ∈ condition, expr.Expressible) (hstep : ∀ expr ∈ step, expr.Expressible)
    (hn : 4 * (init.shapes.length + (optionalShapes condition).length +
      (optionalShapes step).length) + 2 ≤ n)
    (hbody : Reads (Grammar.block n : Parser ρ _) body.shapes stop
      fun result => result.mapLoc (fun _ => ()) = body) :
    Reads (statement (n + 1) : Parser ρ _) (Stmt.for init condition step body loc).shapes stop
      fun result => result.mapLoc (fun _ => ()) = .for init condition step body loc := by
  refine .peek .kwFor rfl (.take (isPrinted_shape rfl)
    (List.mem_cons_of_mem _ List.mem_cons_self) fun head _ => ?_)
  refine .expect (isPrinted_shape rfl) rfl (List.mem_cons_of_mem _ (ahead_forInit init _))
    fun _ _ => ?_
  refine .bind (reads_forInit hinit (by omega)) fun init' hinit' => ?_
  refine .expect (isPrinted_shape rfl) rfl
    (List.mem_cons_of_mem _ (ahead_optional condition _ _)) fun _ _ => ?_
  refine .bind (reads_optional hcondition (by omega)
    (by decide : Terminal.semicolon ∈ afterExpression)) fun condition' hcondition' => ?_
  refine .expect (isPrinted_shape rfl) rfl
    (List.mem_cons_of_mem _ (ahead_optional step _ _)) fun _ _ => ?_
  refine .bind (reads_optional hstep (by omega)
    (by decide : Terminal.rpar ∈ afterExpression)) fun step' hstep' => ?_
  refine .expect (isPrinted_shape rfl) rfl (List.mem_cons_of_mem _ (ahead_block_mem body))
    fun _ _ => ?_
  refine .map hbody fun body' hbody' => ?_
  rw [Stmt.mapLoc, hinit', hcondition', hstep', hbody']

theorem reads_statement_guarded {n : Nat} {body : Block Unit} {handler : Handler Unit}
    {handlers : List (Handler Unit)} {loc : Unit}
    (hbody : Reads (Grammar.block n : Parser ρ _) body.shapes .kwCatch
      fun result => result.mapLoc (fun _ => ()) = body)
    (hhandler : Reads (Grammar.handler n : Parser ρ _) handler.shapes
      (ahead (shapesOfHandlers handlers) stop)
      fun result => result.mapLoc (fun _ => ()) = handler)
    (hhandlers : ∀ found, Reads (Grammar.handlers n found : Parser ρ _)
      (shapesOfHandlers handlers) stop fun result =>
        mapLocHandlers (fun _ => ()) result =
          mapLocHandlers (fun _ => ()) found.reverse ++ handlers) :
    Reads (statement (n + 1) : Parser ρ _) (Stmt.guarded body (handler :: handlers) loc).shapes stop
      fun result => result.mapLoc (fun _ => ()) = .guarded body (handler :: handlers) loc := by
  have hcatch : ahead (shapesOfHandlers (handler :: handlers)) stop = .kwCatch :=
    ahead_handler handler _
  refine .peek .kwTry rfl (.take (isPrinted_shape rfl)
    (List.mem_cons_of_mem _ (ahead_block_append body _)) fun head _ => ?_)
  refine .bind (hcatch ▸ hbody) fun body' hbody' => ?_
  refine .bind hhandler fun first hfirst => ?_
  refine .map (hhandlers [first]) fun rest hrest => ?_
  rw [Stmt.mapLoc, hbody', hrest, ← hfirst]
  rfl

theorem length_stmt_pos {ι : Type} (stmt : Stmt ι) : 1 ≤ stmt.shapes.length :=
  length_pos_of_ahead_ne (ne_of_mem_of_not_mem (ahead_stmt stmt) (by decide))

theorem mapLocStmts_append {ι κ : Type} (f : ι → κ) (stmts stmts' : List (Stmt ι)) :
    mapLocStmts f (stmts ++ stmts') = mapLocStmts f stmts ++ mapLocStmts f stmts' := by
  simp only [mapLocStmts_eq_map, List.map_append]

theorem mapLocHandlers_append {ι κ : Type} (f : ι → κ) (handlers handlers' : List (Handler ι)) :
    mapLocHandlers f (handlers ++ handlers') =
      mapLocHandlers f handlers ++ mapLocHandlers f handlers' := by
  simp only [mapLocHandlers_eq_map, List.map_append]

mutual

/-- A block is read back. -/
theorem reads_block : (n : Nat) → {stop : Terminal} → {block : Block Unit} →
    (h : block.Expressible) → (hn : 4 * block.shapes.length + 1 ≤ n) →
    (hstop : stop ∈ .endOfText :: Follow.afterBlock) →
    Reads (Grammar.block n : Parser ρ _) block.shapes stop
      fun result => result.mapLoc (fun _ => ()) = block
  | 0, _, _, _, hn, _ => absurd hn (by omega)
  | n + 1, stop, .mk statements loc, .mk h, hn, hstop => by
    rw [Block.shapes, List.length_cons] at hn
    refine .expect (isPrinted_shape rfl) rfl (List.mem_cons_of_mem _ (ahead_stmts statements))
      fun _ _ => ?_
    refine .map (reads_statements n h (by omega) hstop) fun result hresult => ?_
    rw [Block.mapLoc, hresult]
    rfl
termination_by structural n => n

/-- The statements of a block are read back up to its closing brace. -/
theorem reads_statements : (n : Nat) → {stop : Terminal} → {found : List (Stmt Nat)} →
    {stmts : List (Stmt Unit)} → (h : ∀ stmt ∈ stmts, stmt.Expressible) →
    (hn : 4 * (shapesOfStmts stmts ++ [Terminal.rbrace.shape]).length + 1 ≤ n) →
    (hstop : stop ∈ .endOfText :: Follow.afterBlock) →
    Reads (statements n found : Parser ρ _) (shapesOfStmts stmts ++ [Terminal.rbrace.shape]) stop
      fun result => mapLocStmts (fun _ => ()) result =
        mapLocStmts (fun _ => ()) found.reverse ++ stmts
  | 0, _, _, _, _, hn, _ => absurd hn (by omega)
  | n + 1, stop, found, [], h, hn, hstop =>
    .peek_eq rfl (.take (isPrinted_shape rfl) hstop fun _ _ => .pure (List.append_nil _).symm)
  | n + 1, stop, found, stmt :: stmts, h, hn, hstop => by
    obtain ⟨hstmt, hstmts⟩ := List.forall_mem_cons.mp h
    rw [shapesOfStmts, List.append_assoc] at hn ⊢
    -- No statement begins with the brace that would end the block.
    have hne : ahead (stmt.shapes ++ (shapesOfStmts stmts ++ [Terminal.rbrace.shape])) stop ≠
        .rbrace := by
      rw [ahead_append]
      exact ne_of_mem_of_not_mem (ahead_stmt stmt) (by decide)
    have hpos := length_stmt_pos stmt
    simp only [List.length_append, List.length_singleton] at hn
    refine .peek_ne hne ?_
    refine .bind (reads_statement n hstmt (by omega) (ahead_stmts stmts)) fun result hresult => ?_
    have hrest : 4 * (shapesOfStmts stmts ++ [Terminal.rbrace.shape]).length + 1 ≤ n := by
      rw [List.length_append, List.length_singleton]
      omega
    refine (reads_statements n hstmts hrest hstop).mono fun results hresults => ?_
    rw [hresults, List.reverse_cons, mapLocStmts_append, List.append_assoc, ← hresult]
    rfl
termination_by structural n => n

/-- A statement is read back. -/
theorem reads_statement : (n : Nat) → {stop : Terminal} → {stmt : Stmt Unit} →
    (h : stmt.Expressible) → (hn : 4 * stmt.shapes.length + 4 ≤ n) →
    (hstop : stop ∈ Follow.statement) →
    Reads (statement n : Parser ρ _) stmt.shapes stop
      fun result => result.mapLoc (fun _ => ()) = stmt
  | 0, _, _, _, hn, _ => absurd hn (by omega)
  | n + 1, stop, stmt, h, hn, hstop => by
    have hafter : stop ∈ .endOfText :: Follow.afterBlock :=
      List.mem_cons_of_mem _ (statement_subset stop hstop)
    -- In each case the parts are shorter than the statement, so the bound suffices for them.
    cases h with
    | expr hvalue =>
      simp only [Stmt.shapes, List.length_append, List.length_singleton] at hn
      exact reads_statement_expr hvalue (by omega) hstop
    | decl hdecl =>
      simp only [Stmt.shapes, List.length_append, List.length_singleton] at hn
      exact reads_statement_decl hdecl (by omega) hstop
    | @block inner hinner =>
      have hread := reads_block n hinner (by rw [Stmt.shapes] at hn; omega) hafter
      obtain ⟨statements, loc⟩ := inner
      exact .peek .lbrace rfl (hread.map fun result hresult => congrArg Stmt.block hresult)
    | ret hvalue =>
      simp only [Stmt.shapes, List.length_cons, List.length_append] at hn
      exact reads_statement_ret hvalue (by omega) hstop
    | throw hvalue =>
      simp only [Stmt.shapes, List.length_cons, List.length_append] at hn
      exact reads_statement_throw hvalue (by omega) hstop
    | rethrow => exact reads_statement_rethrow (by rw [Stmt.shapes] at hn; omega) hstop
    | @guarded body handlers loc hbody hne hhandlers =>
      obtain ⟨handler, handlers, rfl⟩ := List.exists_cons_of_ne_nil hne
      obtain ⟨hhandler, hhandlers⟩ := List.forall_mem_cons.mp hhandlers
      simp only [Stmt.shapes, shapesOfHandlers, List.length_cons, List.length_append] at hn
      exact reads_statement_guarded (reads_block n hbody (by omega) (by decide))
        (reads_handler n hhandler (by omega) (ahead_handlers handlers hstop))
        fun found => reads_handlers n hhandlers (by omega) hstop
    | @branch inner hinner =>
      have hread := reads_branch n hinner (by rw [Stmt.shapes] at hn; omega) hstop
      obtain ⟨condition, whenTrue, otherwise, loc⟩ := inner
      exact .peek .kwIf rfl (hread.map fun result hresult => congrArg Stmt.branch hresult)
    | «while» hcondition hbody =>
      simp only [Stmt.shapes, List.length_cons, List.length_append] at hn
      exact reads_statement_while hcondition (by omega) (reads_block n hbody (by omega) hafter)
    | doWhile hbody hcondition =>
      simp only [Stmt.shapes, List.length_cons, List.length_append] at hn
      exact reads_statement_doWhile (reads_block n hbody (by omega) (by decide)) hcondition
        (by omega) hstop
    | «for» hinit hcondition hstep hbody =>
      simp only [Stmt.shapes, List.length_cons, List.length_append] at hn
      exact reads_statement_for hinit hcondition hstep (by omega)
        (reads_block n hbody (by omega) hafter)
    | «break» =>
      refine .peek .kwBreak rfl (.take (isPrinted_shape rfl)
        (List.mem_cons_of_mem _ List.mem_cons_self) fun head _ => ?_)
      exact .expect (isPrinted_shape rfl) rfl (List.mem_cons_of_mem _ hstop) fun _ _ => .pure rfl
    | «continue» =>
      refine .peek .kwContinue rfl (.take (isPrinted_shape rfl)
        (List.mem_cons_of_mem _ List.mem_cons_self) fun head _ => ?_)
      exact .expect (isPrinted_shape rfl) rfl (List.mem_cons_of_mem _ hstop) fun _ _ => .pure rfl
    | empty =>
      exact .peek .semicolon rfl (.take (isPrinted_shape rfl) (List.mem_cons_of_mem _ hstop)
        fun head _ => .pure rfl)
termination_by structural n => n

/-- A handler is read back. -/
theorem reads_handler : (n : Nat) → {stop : Terminal} → {handler : Handler Unit} →
    (h : handler.Expressible) → (hn : 4 * handler.shapes.length ≤ n) →
    (hstop : stop ∈ .endOfText :: Follow.afterBlock) →
    Reads (Grammar.handler n : Parser ρ _) handler.shapes stop
      fun result => result.mapLoc (fun _ => ()) = handler
  | 0, _, handler, _, hn, _ => absurd (length_handler_pos handler) (by omega)
  | n + 1, stop, .mk type binder block loc, h, hn, hstop => by
    simp only [Handler.shapes, inParens, List.length_cons, List.length_append] at hn
    obtain ⟨htype, hbinder, hnone, hblock⟩ := expressible_parts h
    rw [Handler.shapes, inParens, List.cons_append, List.append_assoc, List.singleton_append]
    refine .expect (isPrinted_shape rfl) rfl (List.mem_cons_of_mem _ List.mem_cons_self)
      fun head _ => ?_
    refine .expect (isPrinted_shape rfl) rfl (List.mem_cons_of_mem _ (ahead_caught type binder _))
      fun _ _ => ?_
    refine .bind (reads_caught htype hbinder hnone (by omega)) fun found hfound => ?_
    refine .expect (isPrinted_shape rfl) rfl (List.mem_cons_of_mem _ (ahead_block_mem block))
      fun _ _ => ?_
    refine .map (reads_block n hblock (by omega) hstop) fun block' hblock' => ?_
    rw [Handler.mapLoc, hfound.1, hfound.2, hblock']
termination_by structural n => n

/-- The handlers behind the first one are read back. -/
theorem reads_handlers : (n : Nat) → {stop : Terminal} → {found : List (Handler Nat)} →
    {handlers : List (Handler Unit)} → (h : ∀ handler ∈ handlers, handler.Expressible) →
    (hn : 4 * (shapesOfHandlers handlers).length + 1 ≤ n) → (hstop : stop ∈ Follow.statement) →
    Reads (Grammar.handlers n found : Parser ρ _) (shapesOfHandlers handlers) stop
      fun result => mapLocHandlers (fun _ => ()) result =
        mapLocHandlers (fun _ => ()) found.reverse ++ handlers
  | 0, _, _, _, _, hn, _ => absurd hn (by omega)
  | n + 1, stop, found, [], h, hn, hstop =>
    -- Another `catch` would be taken for one more handler.
    .peek_ne (ne_of_mem_of_not_mem hstop (by decide)) (.pure (List.append_nil _).symm)
  | n + 1, stop, found, handler :: handlers, h, hn, hstop => by
    obtain ⟨hhandler, hhandlers⟩ := List.forall_mem_cons.mp h
    have hpos := length_handler_pos handler
    rw [shapesOfHandlers, List.length_append] at hn
    refine .peek_eq (ahead_handler handler _) ?_
    refine .bind (reads_handler n hhandler (by omega) (ahead_handlers handlers hstop))
      fun result hresult => ?_
    refine (reads_handlers n hhandlers (by omega) hstop).mono fun results hresults => ?_
    rw [hresults, List.reverse_cons, mapLocHandlers_append, List.append_assoc, ← hresult]
    rfl
termination_by structural n => n

/-- An `if` is read back. -/
theorem reads_branch : (n : Nat) → {stop : Terminal} → {branch : Branch Unit} →
    (h : branch.Expressible) → (hn : 4 * branch.shapes.length + 1 ≤ n) →
    (hstop : stop ∈ Follow.statement) →
    Reads (Grammar.branch n : Parser ρ _) branch.shapes stop
      fun result => result.mapLoc (fun _ => ()) = branch
  | 0, _, _, _, hn, _ => absurd hn (by omega)
  | n + 1, stop, .mk condition whenTrue otherwise loc, .mk hcondition hwhenTrue hotherwise, hn,
      hstop => by
    simp only [Branch.shapes, List.length_cons, List.length_append] at hn
    refine .expect (isPrinted_shape rfl) rfl (List.mem_cons_of_mem _ List.mem_cons_self)
      fun head _ => ?_
    refine .bind (reads_condition hcondition (by omega) (ahead_block_append whenTrue _))
      fun condition' hcondition' => ?_
    refine .bind (reads_block n hwhenTrue (by omega) (ahead_otherwise otherwise hstop))
      fun whenTrue' hwhenTrue' => ?_
    refine .map (reads_otherwise n hotherwise (by omega) hstop) fun otherwise' hotherwise' => ?_
    rw [Branch.mapLoc, hcondition', hwhenTrue', hotherwise']
termination_by structural n => n

/-- What follows the block of an `if` is read back. -/
theorem reads_otherwise : (n : Nat) → {stop : Terminal} → {otherwise : Otherwise Unit} →
    (h : otherwise.Expressible) → (hn : 4 * otherwise.shapes.length + 1 ≤ n) →
    (hstop : stop ∈ Follow.statement) →
    Reads (Grammar.otherwise n : Parser ρ _) otherwise.shapes stop
      fun result => result.mapLoc (fun _ => ()) = otherwise
  | 0, _, _, _, hn, _ => absurd hn (by omega)
  | n + 1, stop, otherwise, h, hn, hstop => by
    cases h with
    | none =>
      -- An `else` from outside would be taken for that of this `if`.
      exact .peek_ne (ne_of_mem_of_not_mem hstop (by decide)) (.pure rfl)
    | @block inner hinner =>
      rw [Otherwise.shapes, List.length_cons] at hn
      have hread := reads_block n hinner (by omega)
        (List.mem_cons_of_mem _ (statement_subset stop hstop))
      obtain ⟨statements, loc⟩ := inner
      refine .peek_eq rfl (.take (isPrinted_shape rfl) (List.mem_cons_of_mem _ List.mem_cons_self)
        fun _ _ => .peek_ne nofun ?_)
      exact hread.map fun result hresult => congrArg Otherwise.block hresult
    | @chain inner hinner =>
      rw [Otherwise.shapes, List.length_cons] at hn
      have hread := reads_branch n hinner (by omega) hstop
      obtain ⟨condition, whenTrue, otherwise, loc⟩ := inner
      refine .peek_eq rfl (.take (isPrinted_shape rfl)
        (List.mem_cons_of_mem _ (List.mem_cons_of_mem _ List.mem_cons_self))
        fun _ _ => .peek_eq rfl ?_)
      exact hread.map fun result hresult => congrArg Otherwise.chain hresult
termination_by structural n => n

end

end Throws.Surface.Grammar
