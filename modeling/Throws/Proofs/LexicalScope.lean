import Throws.Proofs.Positions
import Throws.Proofs.StaticTypes

/-!
# Lexical scope

Resolution carries a scope along and hands it on from statement to statement and into the blocks.
What it comes to in the end is the lexical rule: the expression at a position is resolved in a scope
in which every name has the type of its nearest binding, and a block is resolved in what is bound
where it begins.

Whatever else there is in a program is resolved without looking at the expression or the block. So a
resolved body is the resolved part inside of layers that do not depend on it (`Surrounds`), and the
same goes for the program (`OpenProgram.VariesOnlyIn`).
-/

namespace Throws.Body

/-! ## Layers of a body -/

/-- A node in which one part is missing. -/
inductive Layer where
  /-- A statement of a block. -/
  | block (earlier later : List Node) (span : Span)
  /-- The body of a `try`. -/
  | tried (clauses : List Clause) (span : Span)
  /-- The block of a handler. -/
  | handler (body : Node) (earlier : List Clause) (type : Option ValueType)
      (binder : Option String) (clauseSpan : Span) (later : List Clause) (span : Span)
  /-- The first block of a choice. -/
  | whenTrue (test otherwise : Node) (span : Span)
  /-- The second block of a choice. -/
  | whenFalse (test first : Node) (span : Span)
  /-- The condition of a choice. -/
  | condition (first otherwise : Node) (span : Span)
  /-- The body of a loop. -/
  | loopBody (test init step : Node) (span : Span)
  /-- The condition of a loop. -/
  | loopCondition (body init step : Node) (span : Span)
  /-- The first part of a loop. -/
  | loopInit (body test step : Node) (span : Span)
  /-- The last part of a loop. -/
  | loopStep (body test init : Node) (span : Span)
  /-- An expression that is evaluated. -/
  | eval (span : Span)
  /-- The first value of a variable. -/
  | bind (name : String) (span : Span)
  /-- The value that is returned. -/
  | ret (span : Span)

/-- Puts the missing part in. -/
@[simp]
def Layer.fill (inner : Node) : Layer → Node
  | .block earlier later span => .block (earlier ++ inner :: later) span
  | .tried clauses span => .guarded inner clauses span
  | .handler body earlier type binder clauseSpan later span =>
    .guarded body (earlier ++ .mk type binder inner clauseSpan :: later) span
  | .whenTrue test otherwise span => .branch test inner otherwise span
  | .whenFalse test first span => .branch test first inner span
  | .condition first otherwise span => .branch inner first otherwise span
  | .loopBody test init step span => .loop inner test init step span
  | .loopCondition body init step span => .loop body inner init step span
  | .loopInit body test step span => .loop body test inner step span
  | .loopStep body test init span => .loop body test init inner span
  | .eval span => .eval inner span
  | .bind name span => .bind name inner span
  | .ret span => .ret inner span

/-- Puts a node into layers, the outermost of which comes first. -/
def enclose (layers : List Layer) (inner : Node) : Node :=
  layers.foldr (fun layer node => layer.fill node) inner

@[simp]
theorem enclose_nil (inner : Node) : enclose [] inner = inner := rfl

@[simp]
theorem enclose_cons (layer : Layer) (layers : List Layer) (inner : Node) :
    enclose (layer :: layers) inner = layer.fill (enclose layers inner) := rfl

theorem enclose_append (outer layers : List Layer) (inner : Node) :
    enclose (outer ++ layers) inner = enclose outer (enclose layers inner) :=
  List.foldr_append

end Throws.Body

namespace Throws.Resolution

open Throws.Body Throws.Surface

/-! ## Parts that make no difference outside of them -/

section Surrounding

variable {α : Type}

/-- Whatever the part is resolved to, the whole is that inside of the same layers, and the errors in
the part come between the same other errors. -/
def Surrounds (part whole : α → Logged Node) : Prop :=
  ∃ layers before after, ∀ a, (whole a).value = enclose layers (part a).value ∧
    (whole a).log = before ++ (part a).log ++ after

/-- The same for a statement. The scope behind it does not depend on the part either. -/
def StmtSurrounds (place : Place) (scope : Scope) (part : α → Logged Node) (stmt : α → Stmt Pos) :
    Prop :=
  ∃ layers before after next, ∀ a,
    (lowerStmt place scope (stmt a)).value = ⟨some (enclose layers (part a).value), next⟩ ∧
      (lowerStmt place scope (stmt a)).log = before ++ (part a).log ++ after

variable {part inner whole : α → Logged Node} {place : Place} {scope : Scope}
  {stmt : α → Stmt Pos}

theorem Surrounds.refl (part : α → Logged Node) : Surrounds part part :=
  ⟨[], [], [], fun _ => ⟨rfl, by simp⟩⟩

theorem Surrounds.trans (h : Surrounds part inner) (h' : Surrounds inner whole) :
    Surrounds part whole := by
  obtain ⟨layers, before, after, h⟩ := h
  obtain ⟨outer, before', after', h'⟩ := h'
  refine ⟨outer ++ layers, before' ++ before, after ++ after', fun a => ⟨?_, ?_⟩⟩
  · rw [(h' a).1, (h a).1, enclose_append]
  · rw [(h' a).2, (h a).2]
    simp

theorem Surrounds.trans_stmt (h : Surrounds part inner)
    (h' : StmtSurrounds place scope inner stmt) : StmtSurrounds place scope part stmt := by
  obtain ⟨layers, before, after, h⟩ := h
  obtain ⟨outer, before', after', next, h'⟩ := h'
  refine ⟨outer ++ layers, before' ++ before, after ++ after', next, fun a => ⟨?_, ?_⟩⟩
  · rw [(h' a).1, (h a).1, enclose_append]
  · rw [(h' a).2, (h a).2]
    simp

/-! ## Statements and blocks -/

section Statements

variable (place scope)

/-- The arms before an `if` surround it. -/
theorem surrounds_chained (arms : List Arm) {branch : α → Branch Pos} (loc : Pos)
    (hloc : ∀ a, (branch a).loc = loc) :
    Surrounds (fun a => lowerBranch place scope (branch a))
      (fun a => lowerBranch place scope (chained arms (branch a))) := by
  induction arms with
  | nil => exact .refl _
  | cons arm rest ih =>
    -- The span of the block that `else if` makes up is that of the next `if`.
    obtain ⟨next, hnext⟩ : ∃ next, ∀ a, (chained rest (branch a)).loc = next := by
      cases rest with
      | nil => exact ⟨loc, hloc⟩
      | cons arm' _ => exact ⟨arm'.loc, fun _ => rfl⟩
    refine ih.trans ⟨[.whenFalse (lowerExpr place scope arm.condition).value
      (lowerBlock place scope arm.whenTrue).value (place.span arm.loc),
      .block [] [] (place.span next)],
      (lowerExpr place scope arm.condition).log ++ (lowerBlock place scope arm.whenTrue).log, [],
      fun a => ?_⟩
    simp [chained, lowerBranch, lowerOtherwise, hnext]

/-- An `if` is a statement that binds nothing. -/
theorem stmtSurrounds_branch {branch : α → Branch Pos}
    (h : Surrounds part fun a => lowerBranch place scope (branch a)) :
    StmtSurrounds place scope part fun a => .branch (branch a) :=
  h.trans_stmt ⟨[], [], [], scope, fun a => by simp [lowerStmt]⟩

end Statements

variable (place) (visible : List Binding)

/-- A statement with a block in it surrounds the block, which sees what the statement binds for
it. -/
theorem stmtSurrounds_blockSlot (slot : BlockSlot) (block : α → Block Pos) :
    StmtSurrounds place (scopeOf place visible)
      (fun a => lowerBlock place (scopeOf place (slot.bindings ++ visible)) (block a))
      (fun a => slot.fill (block a)) := by
  let scope := scopeOf place visible
  cases slot with
  | block =>
    refine ⟨[], [], [], scope, fun a => ?_⟩
    simp [lowerStmt, scope]
  | tried handlers loc =>
    let clauses := lowerHandlers place scope handlers
    refine ⟨[.tried clauses.value (place.span loc)], [], clauses.log, scope, fun a => ?_⟩
    simp [lowerStmt, clauses, scope]
  | handler body earlier type binder handlerLoc later loc =>
    let before := lowerHandlers place scope earlier
    let after := lowerHandlers place scope later
    refine ⟨[.handler (lowerBlock place scope body).value before.value
      (lowerCaught place handlerLoc type).value binder (place.span handlerLoc) after.value
      (place.span loc)], (lowerBlock place scope body).log ++ before.log ++
        (lowerCaught place handlerLoc type).log, after.log, scope, fun a => ?_⟩
    simp [lowerStmt, lowerHandlers_eq_each, lowerHandler, bindCaught_scopeOf, before, after, scope]
  | whenTrue arms condition otherwise loc =>
    refine stmtSurrounds_branch place scope
      (.trans ?_ (surrounds_chained place scope arms loc fun _ => rfl))
    refine ⟨[.whenTrue (lowerExpr place scope condition).value
      (lowerOtherwise place scope otherwise).value (place.span loc)],
      (lowerExpr place scope condition).log, (lowerOtherwise place scope otherwise).log,
      fun a => ?_⟩
    simp [lowerBranch, scope]
  | whenFalse arms condition first loc =>
    refine stmtSurrounds_branch place scope
      (.trans ?_ (surrounds_chained place scope arms loc fun _ => rfl))
    refine ⟨[.whenFalse (lowerExpr place scope condition).value
      (lowerBlock place scope first).value (place.span loc)],
      (lowerExpr place scope condition).log ++ (lowerBlock place scope first).log, [],
      fun a => ?_⟩
    simp [lowerBranch, lowerOtherwise, scope]
  | whileBody condition loc | doBody condition loc =>
    -- Either kind of loop looks at its body first, so errors in the condition come last.
    let test := lowerExpr place scope condition
    refine ⟨[.loopBody test.value .absent .absent (place.span loc)], [], test.log, scope,
      fun a => ?_⟩
    simp [lowerStmt, test, scope]
  | forBody init condition step loc =>
    let first := lowerInit place scope init
    let test := lowerOptional place first.value.scope condition
    let advance := lowerOptional place first.value.scope step
    refine ⟨[.loopBody test.value (first.value.node.getD .absent) advance.value (place.span loc)],
      first.log ++ test.log ++ advance.log, [], scope, fun a => ?_⟩
    simp [lowerStmt, scope_lowerInit, first, test, advance, scope]

/-- What becomes of the expression of a statement. Together with what is thrown goes its type. -/
def resolvedAt (place : Place) (scope : Scope) (expr : Expr Pos) : ExprSlot → Logged Node
  | .throw loc => do
    let type ← staticType place scope expr
    let value ← lowerExpr place scope expr
    return .throw value (type.bind Ty.value?) (place.span loc)
  | _ => lowerExpr place scope expr

/-- A statement surrounds its expressions, each of which sees what the statement binds for it. -/
theorem stmtSurrounds_exprSlot (slot : ExprSlot) :
    StmtSurrounds place (scopeOf place visible)
      (fun expr => resolvedAt place (scopeOf place (slot.bindings ++ visible)) expr slot)
      (fun expr => slot.fill expr) := by
  let scope := scopeOf place visible
  cases slot with
  | expr loc =>
    refine ⟨[.eval (place.span loc)], [], [], scope, fun expr => ?_⟩
    simp [resolvedAt, lowerStmt, scope]
  | value type name loc =>
    -- The variable is in scope behind the statement, but not in its own first value.
    let resolved := place.resolve type
    refine ⟨[.bind name (place.span loc)], [], resolved.log, (name, resolved.value) :: scope,
      fun expr => ?_⟩
    simp [resolvedAt, lowerStmt, lowerDecl, lowerOptional, resolved, scope]
  | ret loc =>
    refine ⟨[.ret (place.span loc)], [], [], scope, fun expr => ?_⟩
    simp [resolvedAt, lowerStmt, lowerOptional, scope]
  | throw loc =>
    refine ⟨[], [], [], scope, fun expr => ?_⟩
    simp [resolvedAt, lowerStmt, scope]
  | condition arms whenTrue otherwise loc =>
    refine stmtSurrounds_branch place scope
      (.trans ?_ (surrounds_chained place scope arms loc fun _ => rfl))
    let first := lowerBlock place scope whenTrue
    let second := lowerOtherwise place scope otherwise
    refine ⟨[.condition first.value second.value (place.span loc)], [], first.log ++ second.log,
      fun expr => ?_⟩
    simp [resolvedAt, lowerBranch, first, second, scope]
  | whileCondition body loc | doCondition body loc =>
    let round := lowerBlock place scope body
    refine ⟨[.loopCondition round.value .absent .absent (place.span loc)], round.log, [], scope,
      fun expr => ?_⟩
    simp [resolvedAt, lowerStmt, round, scope]
  | forInit initLoc test step body loc =>
    let condition := lowerOptional place scope test
    let advance := lowerOptional place scope step
    let round := lowerBlock place scope body
    refine ⟨[.loopInit round.value condition.value advance.value (place.span loc),
      .eval (place.span initLoc)], [], condition.log ++ advance.log ++ round.log, scope,
      fun expr => ?_⟩
    simp [resolvedAt, lowerStmt, lowerInit, condition, advance, round, scope]
  | forValue type name initLoc test step body loc =>
    -- All other parts of the loop see the variable, whatever its first value is.
    let resolved := place.resolve type
    let inside := (name, resolved.value) :: scope
    let condition := lowerOptional place inside test
    let advance := lowerOptional place inside step
    let round := lowerBlock place inside body
    refine ⟨[.loopInit round.value condition.value advance.value (place.span loc),
      .bind name (place.span initLoc)], [],
      resolved.log ++ condition.log ++ advance.log ++ round.log, scope, fun expr => ?_⟩
    simp [resolvedAt, lowerStmt, lowerInit, lowerDecl, lowerOptional, resolved, inside, condition,
      advance, round, scope]
  | forCondition init step body loc =>
    let first := lowerInit place scope init
    let advance := lowerOptional place first.value.scope step
    let round := lowerBlock place first.value.scope body
    refine ⟨[.loopCondition round.value (first.value.node.getD .absent) advance.value
      (place.span loc)], first.log, advance.log ++ round.log, scope, fun expr => ?_⟩
    simp [resolvedAt, lowerStmt, lowerOptional, scope_lowerInit, first, advance, round, scope]
  | forStep init test body loc =>
    let first := lowerInit place scope init
    let condition := lowerOptional place first.value.scope test
    let round := lowerBlock place first.value.scope body
    refine ⟨[.loopStep round.value condition.value (first.value.node.getD .absent)
      (place.span loc)], first.log ++ condition.log, round.log, scope, fun expr => ?_⟩
    simp [resolvedAt, lowerStmt, lowerOptional, scope_lowerInit, first, condition, round, scope]

/-- Statements in a row are resolved one after the other, the later ones in what the earlier ones
bind. -/
theorem lowerStmts_append (earlier later : List (Stmt Pos)) :
    let first := lowerStmts place (scopeOf place visible) earlier
    let second := lowerStmts place (scopeOf place (localBindings earlier ++ visible)) later
    let whole := lowerStmts place (scopeOf place visible) (earlier ++ later)
    whole.value = first.value ++ second.value ∧ whole.log = first.log ++ second.log := by
  induction earlier generalizing visible with
  | nil => simp [lowerStmts, localBindings]
  | cons stmt rest ih =>
    -- Whatever the first statement binds lies behind what the others bind.
    obtain ⟨hvalue, hlog⟩ := ih (stmt.bindings ++ visible)
    have hbindings : localBindings (stmt :: rest) ++ visible =
        localBindings rest ++ (stmt.bindings ++ visible) := by
      simp [localBindings]
    simp [lowerStmts, scope_lowerStmt, hbindings, hvalue, hlog]

/-- A block surrounds what one of its statements does. -/
theorem StmtSurrounds.block {place : Place} {visible : List Binding} {earlier : List (Stmt Pos)}
    (h : StmtSurrounds place (scopeOf place (localBindings earlier ++ visible)) part stmt)
    (later : List (Stmt Pos)) (loc : Pos) :
    Surrounds part fun a =>
      lowerBlock place (scopeOf place visible) (.mk (earlier ++ stmt a :: later) loc) := by
  obtain ⟨layers, before, after, next, h⟩ := h
  -- The statements behind are resolved in `next`, which does not depend on the part.
  let first := lowerStmts place (scopeOf place visible) earlier
  let last := lowerStmts place next later
  refine ⟨.block first.value last.value (place.span loc) :: layers, first.log ++ before,
    after ++ last.log, fun a => ?_⟩
  obtain ⟨hvalue, hlog⟩ := lowerStmts_append place visible earlier (stmt a :: later)
  simp only [lowerBlock, Logged.value_below, Logged.log_below, Logged.value_bind, Logged.log_bind,
    Logged.value_pure, Logged.log_pure, hvalue, hlog]
  simp [lowerStmts, h a, first, last]

/-- The blocks around a block surround it, which sees what is bound where it begins. -/
theorem surrounds_surround (params : List (Param Pos)) (path : List Frame) {block : α → Block Pos}
    (h : Surrounds part fun a =>
      lowerBlock place (scopeOf place (bindingsAround params path)) (block a)) :
    Surrounds part fun a =>
      lowerBlock place (scopeOf place (paramBindings params)) (surround path (block a)) := by
  -- From the inside to the outside: the block in its statement is the part of the next block.
  induction path generalizing block with
  | nil => exact h
  | cons frame outer ih =>
    have hstmt := h.trans_stmt (stmtSurrounds_blockSlot place _ frame.slot block)
    exact ih (hstmt.block frame.later frame.loc)

/-- A body surrounds the expression at a position, which sees what is bound there. -/
theorem surrounds_position (params : List (Param Pos)) (position : Position) :
    Surrounds
      (fun expr => resolvedAt place (scopeOf place (position.visible params)) expr position.slot)
      fun expr => lowerBlock place (scopeOf place (paramBindings params)) (position.fill expr) :=
  surrounds_surround place params position.path
    ((stmtSurrounds_exprSlot place _ position.slot).block position.later position.loc)

/-- In the scope of some bindings a name has the type of the first binding of it. -/
theorem lookup_scopeOf (name : String) :
    (scopeOf place visible).lookup name =
      (bound? name visible).map fun binding => (bindingType place binding).2 := by
  induction visible with
  | nil => rfl
  | cons binding rest ih =>
    have hname : (bindingType place binding).1 = binding.name := by cases binding <;> rfl
    have hrest : List.lookup name (rest.map (bindingType place)) =
        (rest.find? (·.name == name)).map fun binding => (bindingType place binding).2 := ih
    rw [scopeOf, List.map_cons, bound?, List.lookup_cons, hname, List.find?_cons]
    by_cases h : binding.name = name
    · simp [h]
    · simp [beq_false_of_ne h, beq_false_of_ne (Ne.symm h), hrest]

end Surrounding

/-! ## Names in a scope -/

/-- Names are resolved in the scope as if `found` had been looked up for each of them: where a name
is thrown, and where it is called, at whatever depth in an expression. -/
structure Sees (place : Place) (scope : Scope) (found : String → Option Ty) : Prop where
  /-- The type of a name is what was found. -/
  type_name : ∀ name loc, (staticType place scope (.name name loc)).value = found name
  /-- A function value is called through. -/
  call_function : ∀ name loc args loc' params contract,
    found name = some (.function params contract) →
    (lowerExpr place scope (.call (.name name loc) args loc')).value =
      .indirectCall (.variable name (place.span loc')) contract (lowerExprs place scope args).value
        (place.span loc')
  /-- Any other local name cannot be called. -/
  call_value : ∀ name loc args loc' type, found name = some (.value type) →
    (lowerExpr place scope (.call (.name name loc) args loc')).value =
      .call none (lowerExprs place scope args).value (some name) (place.span loc')
  /-- Where nothing was found, the call is one of what the program declares. -/
  call_global : ∀ name loc args loc', found name = none →
    (lowerExpr place scope (.call (.name name loc) args loc')).value =
      (lowerNamedCall place [] name (lowerExprs place scope args).value (place.span loc')).value
  /-- Only such a call has a type. -/
  type_call : ∀ name loc args loc',
    (staticType place scope (.call (.name name loc) args loc')).value =
      if (found name).isSome then none else (globalCallType place name args.length).value
  /-- The calls inside of an expression are resolved in the same way. -/
  calls : ∀ expr, (lowerExpr place scope expr).value.calls =
    expr.calls.map fun call => (lowerExpr place scope call).value

/-- All names in a scope are resolved as the scope tells. -/
theorem sees_lookup (place : Place) (scope : Scope) :
    Sees place scope fun name => scope.lookup name where
  type_name _ _ := by
    rw [staticType]
    rfl
  call_function _ _ _ _ _ _ h := by
    rw [value_lowerExpr_named, lowerNamedCall, h]
    rfl
  call_value _ _ _ _ _ h := by
    rw [value_lowerExpr_named, lowerNamedCall, h]
    rfl
  call_global _ _ _ _ h := by
    rw [value_lowerExpr_named, lowerNamedCall, h]
    rfl
  type_call := value_staticType_named place scope
  calls := calls_lowerExpr place scope

/-- In the scope of some bindings every name has the type of the first binding of it. -/
theorem sees_scopeOf (place : Place) (visible : List Binding) :
    Sees place (scopeOf place visible) fun name =>
      (bound? name visible).map fun binding => (bindingType place binding).2 := by
  have h := sees_lookup place (scopeOf place visible)
  simpa only [lookup_scopeOf] using h

/-! ## The errors of a program -/

theorem log_lowerBody (place : Place) {definition : FunctionDef Pos} {body : Block Pos}
    (h : definition.body = some body) :
    (lowerBody place definition).log = (paramScope place definition.params []).log ++
      (lowerBlock place (paramScope place definition.params []).value body).log := by
  rw [lowerBody, h]
  simp

/-- The errors in a program are those in its types, those in its signatures and those in its
bodies. -/
theorem log_lowerProgram (sources : List (String × Program Pos)) :
    (lowerProgram sources).log = (Types.ofPrograms sources).log ++
      ((declarations sources).flatMap fun declared =>
        (headerIn sources declared.1 declared.2).log) ++
      (declarations sources).flatMap fun declared =>
        (loweredIn sources declared.1 declared.2).log := by
  simp only [lowerProgram, Logged.log_bind, Logged.log_each, Logged.value_each, Logged.log_pure,
    List.append_nil, List.flatMap_map, List.append_assoc]
  rfl

/-! ## Programs with an open body -/

/-- A program in which the body of one function is missing. -/
structure OpenProgram where
  /-- The files before that of the function. -/
  before : List (String × Program Pos)
  /-- The file of the function. -/
  file : String
  /-- The exceptions that are declared in the file. -/
  exceptions : List (ExceptionDef Pos)
  /-- The aliases that are declared in the file. -/
  aliases : List (AliasDef Pos)
  /-- The functions in the file before this one. -/
  earlier : List (FunctionDef Pos)
  /-- The function; a body that it may have already does not count. -/
  header : FunctionDef Pos
  /-- The functions in the file behind this one. -/
  later : List (FunctionDef Pos)
  /-- The files behind that of the function. -/
  after : List (String × Program Pos)

namespace OpenProgram

variable (program : OpenProgram)

/-- The function with the given body. -/
def function (body : Block Pos) : FunctionDef Pos := { program.header with body := some body }

/-- The program with the given body for its function. -/
def close (body : Block Pos) : List (String × Program Pos) :=
  program.before ++ (program.file, {
    exceptions := program.exceptions
    aliases := program.aliases
    functions := program.earlier ++ program.function body :: program.later }) :: program.after

/-- The names of the files. -/
def files : List String := program.before.map (·.1) ++ program.file :: program.after.map (·.1)

/-- The program with an empty body. All that is declared can be told from it. -/
def emptied : List (String × Program Pos) := program.close (.mk [] {})

/-- Where the body is resolved. -/
def place : Place := placeIn program.emptied program.file

/-- Whatever the part is resolved to, the program is resolved to the same functions, except that in
the body of one of them the part stands inside of the same layers. The errors in the part come
between the same other errors. -/
def VariesOnlyIn {α : Type} (part : α → Logged Node) (body : α → Block Pos) : Prop :=
  ∃ (layers : List Layer) (signature : Function) (earlier later : List (String × Function))
    (reports reports' : List Diagnostic), ∀ a,
      (lowerProgram (program.close (body a))).value = unitsOf program.files
        (earlier ++ (program.file, { signature with
          body := some (enclose layers (part a).value) }) :: later) ∧
      (lowerProgram (program.close (body a))).log = reports ++ (part a).log ++ reports'

/-- The declarations before the function. -/
def declarationsBefore : List (String × FunctionDef Pos) :=
  declarations program.before ++ program.earlier.map (program.file, ·)

/-- The declarations behind the function. -/
def declarationsAfter : List (String × FunctionDef Pos) :=
  program.later.map (program.file, ·) ++ declarations program.after

theorem declarations_close (body : Block Pos) :
    declarations (program.close body) =
      program.declarationsBefore ++ (program.file, program.function body) ::
        program.declarationsAfter := by
  simp [declarations, close, declarationsBefore, declarationsAfter]

theorem ofPrograms_close (body : Block Pos) :
    Types.ofPrograms (program.close body) = Types.ofPrograms program.emptied := by
  simp [Types.ofPrograms, emptied, close]

theorem programTypes_close (body : Block Pos) :
    programTypes (program.close body) = programTypes program.emptied := by
  rw [programTypes, programTypes, ofPrograms_close]

theorem headerIn_close (body : Block Pos) :
    headerIn (program.close body) = headerIn program.emptied := by
  funext file definition
  rw [headerIn, headerIn, programTypes_close]

/-- A body declares nothing. -/
theorem programGlobals_close (body : Block Pos) :
    programGlobals (program.close body) = programGlobals program.emptied := by
  rw [programGlobals, programGlobals, programTypes_close, headerIn_close, emptied,
    declarations_close, declarations_close]
  simp only [overloadsOf, List.map_append, List.map_cons]
  rfl

theorem loweredIn_close (body : Block Pos) :
    loweredIn (program.close body) = loweredIn program.emptied := by
  funext file definition
  rw [loweredIn, loweredIn, programGlobals_close, headerIn_close]

/-- What the function is resolved to, apart from its body. -/
def signature : Function :=
  (loweredIn program.emptied program.file (program.function (.mk [] {}))).value

/-- Where the body begins, the parameters are bound. -/
def bodyScope : Scope := scopeOf program.place (paramBindings program.header.params)

theorem loweredIn_function (body : Block Pos) :
    let lowered := loweredIn (program.close body) program.file (program.function body)
    let block := lowerBlock program.place program.bodyScope body
    lowered.value = { program.signature with body := some block.value } ∧
      lowered.log = (paramScope program.place program.header.params []).log ++ block.log := by
  have hscope := value_paramScope program.place program.header.params []
  rw [List.append_nil] at hscope
  rw [loweredIn_close, bodyScope, ← hscope]
  intro lowered block
  refine ⟨rfl, ?_⟩
  have hlog : lowered.log = (lowerBody program.place (program.function body)).log :=
    List.append_nil _
  rw [hlog, log_lowerBody program.place rfl]
  rfl

/-- What surrounds a part in the body surrounds it in the program. -/
theorem variesOnlyIn {α : Type} {part : α → Logged Node} {body : α → Block Pos}
    (h : Surrounds part fun a => lowerBlock program.place program.bodyScope (body a)) :
    program.VariesOnlyIn part body := by
  obtain ⟨layers, before, after, h⟩ := h
  -- Everything but the function itself is resolved as it is with an empty body.
  let lowered : String × FunctionDef Pos → String × Function :=
    fun declared => (declared.1, (loweredIn program.emptied declared.1 declared.2).value)
  let headerLog : String × FunctionDef Pos → List Diagnostic :=
    fun declared => (headerIn program.emptied declared.1 declared.2).log
  let bodyLog : String × FunctionDef Pos → List Diagnostic :=
    fun declared => (loweredIn program.emptied declared.1 declared.2).log
  refine ⟨layers, program.signature, program.declarationsBefore.map lowered,
    program.declarationsAfter.map lowered,
    (Types.ofPrograms program.emptied).log ++ (declarations program.emptied).flatMap headerLog ++
      program.declarationsBefore.flatMap bodyLog ++
      (paramScope program.place program.header.params []).log ++ before,
    after ++ program.declarationsAfter.flatMap bodyLog, fun a => ?_⟩
  obtain ⟨hvalue, hlog⟩ := program.loweredIn_function (body a)
  rw [(h a).1] at hvalue
  rw [(h a).2] at hlog
  constructor
  · rw [value_lowerProgram, declarations_close, List.map_append, List.map_cons, hvalue,
      loweredIn_close]
    congr 1
    simp [close, files]
  · -- The signature of the function can be told without its body.
    have hheaders : (declarations (program.close (body a))).flatMap headerLog =
        (declarations program.emptied).flatMap headerLog := by
      rw [emptied, declarations_close, declarations_close, List.flatMap_append,
        List.flatMap_append, List.flatMap_cons, List.flatMap_cons]
      rfl
    rw [log_lowerProgram, headerIn_close, hheaders, declarations_close, List.flatMap_append,
      List.flatMap_cons, hlog, loweredIn_close, ofPrograms_close]
    simp [bodyLog]

end OpenProgram

/-- Scoping is lexical. Every expression of a body stands at a position, and at every position names
are resolved to the type of their nearest binding: the latest declaration before it in the same
block, or else what the block binds itself, or else the same in the blocks around it, or else the
last parameter of the name. Apart from that nothing in the program depends on the expression.

A block inside of a body is resolved with what is bound where it begins, and nothing else in the
program depends on what stands in it: not the rest of the body, not any other function, and no error
but those inside of the block. -/
theorem nearest_binding_decides (program : OpenProgram) :
    (∀ body stmt expr, Block.Contains body stmt → expr ∈ stmt.exprs →
      ∃ position : Position, position.fill expr = body ∧ position.slot.fill expr = stmt) ∧
    (∀ position : Position, ∃ scope,
      Sees program.place scope (fun name =>
        (position.nearest? program.header.params name).map fun binding =>
          (bindingType program.place binding).2) ∧
      program.VariesOnlyIn (fun expr => resolvedAt program.place scope expr position.slot)
        position.fill) ∧
    ∀ path : List Frame, ∃ scope,
      Sees program.place scope (fun name =>
        (nearest? program.header.params name path []).map fun binding =>
          (bindingType program.place binding).2) ∧
      program.VariesOnlyIn (lowerBlock program.place scope) (surround path) := by
  refine ⟨fun body stmt expr hstmt hexpr => exists_position hstmt hexpr, fun position => ?_,
    fun path => ?_⟩
  · have hsees := sees_scopeOf program.place (position.visible program.header.params)
    simp only [bound?_visible] at hsees
    exact ⟨_, hsees, program.variesOnlyIn (surrounds_position _ _ position)⟩
  · have hsees := sees_scopeOf program.place (bindingsAround program.header.params path)
    have hbound := fun name => bound?_localBindings_append name program.header.params path []
    simp only [localBindings, List.reverse_nil, List.flatMap_nil, List.nil_append] at hbound
    simp only [hbound] at hsees
    exact ⟨_, hsees, program.variesOnlyIn (surrounds_surround _ _ path (.refl _))⟩

/-- The function `void f(string x)` in a program with the exceptions `E` and `F`. -/
def openShadowing : OpenProgram where
  before := []
  file := "a"
  exceptions := [⟨"E", {}⟩, ⟨"F", {}⟩]
  aliases := []
  earlier := []
  header := {
    name := "f"
    params := [⟨.named "string" false false false {}, some "x"⟩]
    returnType := .named "void" false false false {}
    clauses := {}
    body := none
    loc := {} }
  later := []
  after := []

/-- The position of what is thrown in
`{ F x; try { } catch (E x) { { int x; } throw …; } }`. -/
def shadowedPosition : Position where
  earlier := [.block (.mk [.decl ⟨.named "int" false false false {}, "x", none, {}⟩] {})]
  slot := .throw {}
  later := []
  loc := {}
  path := [{
    earlier := [.decl ⟨.named "F" false false false {}, "x", none, {}⟩]
    slot := .handler (.mk [] {}) [] (some (.named "E" false false false {})) (some "x") {} [] {}
    later := []
    loc := {} }]

/-- Of all the declarations of `x` it is the one of the handler that counts in `throw x;` and in
`throw x();`: an `E` is thrown, and it cannot be called. -/
theorem nearest_binding_shadowedPosition :
    let body := shadowedPosition.fill (.name "x" {})
    body.Contains (.throw (.name "x" {}) {}) ∧
      (∃ position : Position, position.fill (.name "x" {}) = body ∧
        position.slot.fill (.name "x" {}) = .throw (.name "x" {}) {}) ∧
      ∃ scope,
        (staticType openShadowing.place scope (.name "x" {})).value =
          some (.value { name := "E" }) ∧
        (lowerExpr openShadowing.place scope (.call (.name "x" {}) [] {})).value =
          .call none [] (some "x") (openShadowing.place.span {}) ∧
        openShadowing.VariesOnlyIn
          (fun expr => resolvedAt openShadowing.place scope expr (.throw {}))
          shadowedPosition.fill := by
  intro body
  obtain ⟨hposition, hnearest, -⟩ := nearest_binding_decides openShadowing
  have hcontains : body.Contains (.throw (.name "x" {}) {}) :=
    .inside (List.mem_cons_of_mem _ List.mem_cons_self) (List.mem_cons_of_mem _ List.mem_cons_self)
      (.here (List.mem_cons_of_mem _ List.mem_cons_self))
  obtain ⟨scope, hsees, hvaries⟩ := hnearest shadowedPosition
  exact ⟨hcontains, hposition body _ _ hcontains List.mem_cons_self, scope,
    hsees.type_name "x" {}, hsees.call_value "x" {} [] {} _ rfl, hvaries⟩

end Throws.Resolution
