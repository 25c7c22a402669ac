import Throws.Proofs.ExprSites

/-!
# Positions in a body

A position is a body with a place left open: a block in which one expression is missing, and the
blocks around it from the inside to the outside. `Position.fill` puts an expression there, and
`surround` puts a whole block into the blocks around it. Every expression of a body stands at a
position (`exists_position`).

Which binding a name refers to is read off a position without resolving anything:
`Position.nearest?` looks through the statements before the place, then at what the block itself
binds, and then goes on in the same way in the block around it, up to the parameters. Blocks that
are closed before the place are not looked into.
-/

namespace Throws.Surface

/-! ## Blocks in statements -/

/-- An `if` or `else if` that another `else if` follows. -/
structure Arm where
  /-- The condition. -/
  condition : Expr Pos
  /-- The block. -/
  whenTrue : Block Pos
  /-- Where the `if` stands. -/
  loc : Pos

/-- The `if` that begins with the given arms and ends with another one. -/
def chained : List Arm → Branch Pos → Branch Pos
  | [], last => last
  | arm :: rest, last => .mk arm.condition arm.whenTrue (.chain (chained rest last)) arm.loc

/-- A statement in which a block is missing. -/
inductive BlockSlot where
  /-- The statement is the block. -/
  | block
  /-- The block of a `try`. -/
  | tried (handlers : List (Handler Pos)) (loc : Pos)
  /-- The block of a handler. -/
  | handler (body : Block Pos) (earlier : List (Handler Pos)) (type : Option (TypeExpr Pos))
      (binder : Option String) (handlerLoc : Pos) (later : List (Handler Pos)) (loc : Pos)
  /-- The block of an `if` or `else if`. -/
  | whenTrue (arms : List Arm) (condition : Expr Pos) (otherwise : Otherwise Pos) (loc : Pos)
  /-- The block of an `else`. -/
  | whenFalse (arms : List Arm) (condition : Expr Pos) (first : Block Pos) (loc : Pos)
  /-- The body of a `while`. -/
  | whileBody (condition : Expr Pos) (loc : Pos)
  /-- The body of a `do`. -/
  | doBody (condition : Expr Pos) (loc : Pos)
  /-- The body of a `for`. -/
  | forBody (init : ForInit Pos) (condition step : Option (Expr Pos)) (loc : Pos)

namespace BlockSlot

/-- Puts a block into a statement. -/
@[simp]
def fill (inner : Block Pos) : BlockSlot → Stmt Pos
  | .block => .block inner
  | .tried handlers loc => .guarded inner handlers loc
  | .handler body earlier type binder handlerLoc later loc =>
    .guarded body (earlier ++ .mk type binder inner handlerLoc :: later) loc
  | .whenTrue arms condition otherwise loc =>
    .branch (chained arms (.mk condition inner otherwise loc))
  | .whenFalse arms condition first loc =>
    .branch (chained arms (.mk condition first (.block inner) loc))
  | .whileBody condition loc => .while condition inner loc
  | .doBody condition loc => .doWhile inner condition loc
  | .forBody init condition step loc => .for init condition step inner loc

/-- What the statement binds for its block: the caught value, or the variable of a `for`. -/
@[simp]
def bindings : BlockSlot → List Binding
  | .handler _ _ type binder _ _ _ => caughtBindings type binder
  | .forBody init _ _ _ => init.bindings
  | _ => []

end BlockSlot

/-- A block with one of its statements, in which another block is missing. -/
structure Frame where
  /-- The statements before it. -/
  earlier : List (Stmt Pos)
  /-- The statement. -/
  slot : BlockSlot
  /-- The statements behind it. -/
  later : List (Stmt Pos)
  /-- Where the block begins. -/
  loc : Pos

/-- Puts a block into a block. -/
def Frame.fill (frame : Frame) (inner : Block Pos) : Block Pos :=
  .mk (frame.earlier ++ frame.slot.fill inner :: frame.later) frame.loc

/-- Puts a block into the blocks around it, the innermost first. -/
def surround : List Frame → Block Pos → Block Pos
  | [], inner => inner
  | frame :: outer, inner => surround outer (frame.fill inner)

/-! ## Expressions in statements -/

/-- A statement in which an expression is missing. -/
inductive ExprSlot where
  /-- An expression as a statement. -/
  | expr (loc : Pos)
  /-- The first value of a local variable. -/
  | value (type : TypeExpr Pos) (name : String) (loc : Pos)
  /-- The value that is returned. -/
  | ret (loc : Pos)
  /-- The value that is thrown. -/
  | throw (loc : Pos)
  /-- The condition of an `if` or `else if`. -/
  | condition (arms : List Arm) (whenTrue : Block Pos) (otherwise : Otherwise Pos) (loc : Pos)
  /-- The condition of a `while`. -/
  | whileCondition (body : Block Pos) (loc : Pos)
  /-- The condition of a `do`. -/
  | doCondition (body : Block Pos) (loc : Pos)
  /-- The first part of a `for`. -/
  | forInit (initLoc : Pos) (test step : Option (Expr Pos)) (body : Block Pos) (loc : Pos)
  /-- The first value of the variable of a `for`. -/
  | forValue (type : TypeExpr Pos) (name : String) (initLoc : Pos)
      (test step : Option (Expr Pos)) (body : Block Pos) (loc : Pos)
  /-- The condition of a `for`. -/
  | forCondition (init : ForInit Pos) (step : Option (Expr Pos)) (body : Block Pos) (loc : Pos)
  /-- The last part of a `for`. -/
  | forStep (init : ForInit Pos) (test : Option (Expr Pos)) (body : Block Pos) (loc : Pos)

namespace ExprSlot

/-- Puts an expression into a statement. -/
@[simp]
def fill (expr : Expr Pos) : ExprSlot → Stmt Pos
  | .expr loc => .expr expr loc
  | .value type name loc => .decl ⟨type, name, some expr, loc⟩
  | .ret loc => .ret (some expr) loc
  | .throw loc => .throw expr loc
  | .condition arms whenTrue otherwise loc =>
    .branch (chained arms (.mk expr whenTrue otherwise loc))
  | .whileCondition body loc => .while expr body loc
  | .doCondition body loc => .doWhile body expr loc
  | .forInit initLoc test step body loc => .for (.expr expr initLoc) test step body loc
  | .forValue type name initLoc test step body loc =>
    .for (.decl ⟨type, name, some expr, initLoc⟩) test step body loc
  | .forCondition init step body loc => .for init (some expr) step body loc
  | .forStep init test body loc => .for init test (some expr) body loc

/-- What the statement binds for the expression: the variable of a `for`, in its condition and in
its last part. -/
@[simp]
def bindings : ExprSlot → List Binding
  | .forCondition init _ _ _ | .forStep init _ _ _ => init.bindings
  | _ => []

end ExprSlot

/-- A body in which an expression is missing. -/
structure Position where
  /-- The statements before that of the expression, in the same block. -/
  earlier : List (Stmt Pos)
  /-- The statement of the expression. -/
  slot : ExprSlot
  /-- The statements behind it. -/
  later : List (Stmt Pos)
  /-- Where the block begins. -/
  loc : Pos
  /-- The blocks around that block, the innermost first. -/
  path : List Frame

/-- Puts an expression into a body. -/
def Position.fill (position : Position) (expr : Expr Pos) : Block Pos :=
  surround position.path
    (.mk (position.earlier ++ position.slot.fill expr :: position.later) position.loc)

/-! ## The nearest binding -/

/-- The first of the bindings that is for the name. -/
def bound? (name : String) (bindings : List Binding) : Option Binding :=
  bindings.find? (·.name == name)

/-- The latest declaration of the name among statements in a row. What is declared further inside of
them does not count. -/
def latest? (name : String) (statements : List (Stmt Pos)) : Option Binding :=
  statements.reverse.findSome? fun stmt => bound? name stmt.bindings

/-- The last parameter of the name. -/
def lastParam? (name : String) (params : List (Param Pos)) : Option Binding :=
  (params.reverse.find? (·.name == some name)).map fun param => .declared name param.type

/-- The nearest binding of the name behind some statements of a block, in the blocks around it and
among the parameters. -/
def nearest? (params : List (Param Pos)) (name : String) :
    List Frame → List (Stmt Pos) → Option Binding
  | [], earlier => (latest? name earlier).or (lastParam? name params)
  | frame :: outer, earlier => (latest? name earlier).or <|
    (bound? name frame.slot.bindings).or (nearest? params name outer frame.earlier)

/-- The nearest binding of the name at a position. -/
def Position.nearest? (params : List (Param Pos)) (name : String) (position : Position) :
    Option Binding :=
  (bound? name position.slot.bindings).or
    (Surface.nearest? params name position.path position.earlier)

/-! ## Every expression stands at a position -/

mutual

/-- The blocks of an `if`. -/
def Branch.blocks : Branch Pos → List (Block Pos)
  | .mk _ whenTrue otherwise _ => whenTrue :: otherwise.blocks

/-- The blocks behind the first one of an `if`. -/
def Otherwise.blocks : Otherwise Pos → List (Block Pos)
  | .none => []
  | .block inner => [inner]
  | .chain inner => inner.blocks

end

mutual

/-- The conditions of an `if`. -/
def Branch.conditions : Branch Pos → List (Expr Pos)
  | .mk condition _ otherwise _ => condition :: otherwise.conditions

/-- The conditions behind the first one of an `if`. -/
def Otherwise.conditions : Otherwise Pos → List (Expr Pos)
  | .none | .block _ => []
  | .chain inner => inner.conditions

end

/-- The block of a handler. -/
def Handler.block : Handler Pos → Block Pos
  | .mk _ _ inner _ => inner

/-- The blocks of a statement. -/
def Stmt.blocks : Stmt Pos → List (Block Pos)
  | .block inner => [inner]
  | .guarded body handlers _ => body :: handlers.map Handler.block
  | .branch inner => inner.blocks
  | .while _ body _ | .doWhile body _ _ | .for _ _ _ body _ => [body]
  | _ => []

/-- The expressions in the first part of a `for`. -/
def ForInit.exprs : ForInit Pos → List (Expr Pos)
  | .none => []
  | .expr value _ => [value]
  | .decl inner => inner.value.toList

/-- The expressions of a statement, apart from those in its blocks. -/
def Stmt.exprs : Stmt Pos → List (Expr Pos)
  | .expr value _ | .throw value _ | .while value _ _ | .doWhile _ value _ => [value]
  | .decl inner => inner.value.toList
  | .ret value _ => value.toList
  | .branch inner => inner.conditions
  | .for init condition step _ _ => init.exprs ++ (condition.toList ++ step.toList)
  | _ => []

/-- The statement stands in the block or in a block inside of it. -/
inductive Block.Contains : Block Pos → Stmt Pos → Prop
  /-- The statement is one of those of the block. -/
  | here {block : Block Pos} {stmt : Stmt Pos} : stmt ∈ block.statements → Contains block stmt
  /-- The statement stands inside of one of them. -/
  | inside {block inner : Block Pos} {outer stmt : Stmt Pos} : outer ∈ block.statements →
      inner ∈ outer.blocks → Contains inner stmt → Contains block stmt

theorem surround_append (inner outer : List Frame) (block : Block Pos) :
    surround (inner ++ outer) block = surround outer (surround inner block) := by
  induction inner generalizing block with
  | nil => rfl
  | cons frame rest ih => exact ih (frame.fill block)

/-- A block of an `if` is one of the `if` with another arm before it. -/
theorem BlockSlot.exists_behind_arm {block : Block Pos} {slot : BlockSlot} {branch : Branch Pos}
    (h : slot.fill block = .branch branch) (arm : Arm) :
    ∃ slot : BlockSlot, slot.fill block = .branch (chained [arm] branch) := by
  cases slot with
  | whenTrue arms condition otherwise loc =>
    cases h
    exact ⟨.whenTrue (arm :: arms) condition otherwise loc, rfl⟩
  | whenFalse arms condition first loc =>
    cases h
    exact ⟨.whenFalse (arm :: arms) condition first loc, rfl⟩
  | _ => cases h

mutual

/-- A block of an `if` is that of an arm or that of the `else`. -/
theorem exists_slot_of_mem_branch {block : Block Pos} : (branch : Branch Pos) →
    block ∈ branch.blocks → ∃ slot : BlockSlot, slot.fill block = .branch branch
  | .mk condition whenTrue otherwise loc, h => by
    rcases List.mem_cons.mp h with rfl | h
    · exact ⟨.whenTrue [] condition otherwise loc, rfl⟩
    · exact exists_slot_of_mem_otherwise ⟨condition, whenTrue, loc⟩ otherwise h
termination_by structural branch => branch

theorem exists_slot_of_mem_otherwise {block : Block Pos} (arm : Arm) : (otherwise : Otherwise Pos) →
    block ∈ otherwise.blocks → ∃ slot : BlockSlot,
      slot.fill block = .branch (.mk arm.condition arm.whenTrue otherwise arm.loc)
  | .none, h => by cases h
  | .block inner, h => by
    obtain rfl := List.mem_singleton.mp h
    exact ⟨.whenFalse [] arm.condition arm.whenTrue arm.loc, rfl⟩
  | .chain inner, h => by
    obtain ⟨slot, hslot⟩ := exists_slot_of_mem_branch inner h
    exact BlockSlot.exists_behind_arm hslot arm
termination_by structural otherwise => otherwise

end

mutual

/-- A condition of an `if` is that of an arm. -/
theorem exists_arms_of_mem_branch {expr : Expr Pos} : (branch : Branch Pos) →
    expr ∈ branch.conditions → ∃ arms whenTrue otherwise loc,
      chained arms (.mk expr whenTrue otherwise loc) = branch
  | .mk condition whenTrue otherwise loc, h => by
    rcases List.mem_cons.mp h with rfl | h
    · exact ⟨[], whenTrue, otherwise, loc, rfl⟩
    · exact exists_arms_of_mem_otherwise ⟨condition, whenTrue, loc⟩ otherwise h
termination_by structural branch => branch

theorem exists_arms_of_mem_otherwise {expr : Expr Pos} (arm : Arm) : (otherwise : Otherwise Pos) →
    expr ∈ otherwise.conditions → ∃ arms whenTrue otherwise' loc,
      chained arms (.mk expr whenTrue otherwise' loc) =
        .mk arm.condition arm.whenTrue otherwise arm.loc
  | .none, h => by cases h
  | .block inner, h => by cases h
  | .chain inner, h => by
    obtain ⟨arms, whenTrue, otherwise, loc, rfl⟩ := exists_arms_of_mem_branch inner h
    exact ⟨arm :: arms, whenTrue, otherwise, loc, rfl⟩
termination_by structural otherwise => otherwise

end

/-- A block of a statement can be taken out of it. -/
theorem exists_slot_of_mem_blocks {block : Block Pos} {stmt : Stmt Pos} (h : block ∈ stmt.blocks) :
    ∃ slot : BlockSlot, slot.fill block = stmt := by
  cases stmt with
  | block inner =>
    obtain rfl := List.mem_singleton.mp h
    exact ⟨.block, rfl⟩
  | guarded body handlers loc =>
    rcases List.mem_cons.mp h with rfl | h
    · exact ⟨.tried handlers loc, rfl⟩
    · obtain ⟨⟨type, binder, inner, handlerLoc⟩, hhandler, rfl⟩ := List.mem_map.mp h
      obtain ⟨earlier, later, rfl⟩ := List.append_of_mem hhandler
      exact ⟨.handler body earlier type binder handlerLoc later loc, rfl⟩
  | branch inner => exact exists_slot_of_mem_branch inner h
  | «while» condition body loc =>
    obtain rfl := List.mem_singleton.mp h
    exact ⟨.whileBody condition loc, rfl⟩
  | doWhile body condition loc =>
    obtain rfl := List.mem_singleton.mp h
    exact ⟨.doBody condition loc, rfl⟩
  | «for» init condition step body loc =>
    obtain rfl := List.mem_singleton.mp h
    exact ⟨.forBody init condition step loc, rfl⟩
  | _ => cases h

/-- An expression of a statement can be taken out of it. -/
theorem exists_slot_of_mem_exprs {expr : Expr Pos} {stmt : Stmt Pos} (h : expr ∈ stmt.exprs) :
    ∃ slot : ExprSlot, slot.fill expr = stmt := by
  cases stmt with
  | expr value loc =>
    obtain rfl := List.mem_singleton.mp h
    exact ⟨.expr loc, rfl⟩
  | decl inner =>
    obtain ⟨type, name, value, loc⟩ := inner
    obtain rfl := Option.mem_toList.mp h
    exact ⟨.value type name loc, rfl⟩
  | ret value loc =>
    obtain rfl := Option.mem_toList.mp h
    exact ⟨.ret loc, rfl⟩
  | throw value loc =>
    obtain rfl := List.mem_singleton.mp h
    exact ⟨.throw loc, rfl⟩
  | branch inner =>
    obtain ⟨arms, whenTrue, otherwise, loc, rfl⟩ := exists_arms_of_mem_branch inner h
    exact ⟨.condition arms whenTrue otherwise loc, rfl⟩
  | «while» condition body loc =>
    obtain rfl := List.mem_singleton.mp h
    exact ⟨.whileCondition body loc, rfl⟩
  | doWhile body condition loc =>
    obtain rfl := List.mem_singleton.mp h
    exact ⟨.doCondition body loc, rfl⟩
  | «for» init condition step body loc =>
    rcases List.mem_append.mp h with h | h
    · cases init with
      | none => cases h
      | expr value initLoc =>
        obtain rfl := List.mem_singleton.mp h
        exact ⟨.forInit initLoc condition step body loc, rfl⟩
      | decl inner =>
        obtain ⟨type, name, value, initLoc⟩ := inner
        obtain rfl := Option.mem_toList.mp h
        exact ⟨.forValue type name initLoc condition step body loc, rfl⟩
    · rcases List.mem_append.mp h with h | h
      · obtain rfl := Option.mem_toList.mp h
        exact ⟨.forCondition init step body loc, rfl⟩
      · obtain rfl := Option.mem_toList.mp h
        exact ⟨.forStep init condition body loc, rfl⟩
  | _ => cases h

/-- Every statement of a body has its place in a block, and the block in the blocks around it. -/
theorem Block.Contains.exists_path {body : Block Pos} {stmt : Stmt Pos} (h : body.Contains stmt) :
    ∃ path earlier later loc, surround path (.mk (earlier ++ stmt :: later) loc) = body := by
  induction h with
  | @here block stmt hmem =>
    obtain ⟨statements, loc⟩ := block
    obtain ⟨earlier, later, hsplit⟩ := List.append_of_mem hmem
    exact ⟨[], earlier, later, loc, congrArg (Block.mk · loc) hsplit.symm⟩
  | @inside block inner outer stmt hmem hinner _ ih =>
    obtain ⟨statements, loc⟩ := block
    obtain ⟨path, earlier, later, innerLoc, rfl⟩ := ih
    obtain ⟨slot, rfl⟩ := exists_slot_of_mem_blocks hinner
    obtain ⟨before, after, hsplit⟩ := List.append_of_mem hmem
    -- The statement that has the inner block in it becomes the outermost frame.
    refine ⟨path ++ [⟨before, slot, after, loc⟩], earlier, later, innerLoc, ?_⟩
    rw [surround_append]
    exact congrArg (Block.mk · loc) hsplit.symm

/-- Every expression of a body stands at a position. -/
theorem exists_position {body : Block Pos} {stmt : Stmt Pos} {expr : Expr Pos}
    (hstmt : body.Contains stmt) (hexpr : expr ∈ stmt.exprs) :
    ∃ position : Position, position.fill expr = body ∧ position.slot.fill expr = stmt := by
  obtain ⟨path, earlier, later, loc, rfl⟩ := hstmt.exists_path
  obtain ⟨slot, rfl⟩ := exists_slot_of_mem_exprs hexpr
  exact ⟨⟨earlier, slot, later, loc, path⟩, rfl, rfl⟩

/-! ## What is visible -/

/-- What statements in a row bind for what comes behind them, the latest first. -/
def localBindings (statements : List (Stmt Pos)) : List Binding :=
  statements.reverse.flatMap Stmt.bindings

/-- What is bound where a block begins, the latest first. -/
def bindingsAround (params : List (Param Pos)) : List Frame → List Binding
  | [] => paramBindings params
  | frame :: outer =>
    frame.slot.bindings ++ (localBindings frame.earlier ++ bindingsAround params outer)

/-- What is bound at a position, the latest first. -/
def Position.visible (params : List (Param Pos)) (position : Position) : List Binding :=
  position.slot.bindings ++
    (localBindings position.earlier ++ bindingsAround params position.path)

section Visible

variable (name : String) (params : List (Param Pos))

theorem bound?_append (first second : List Binding) :
    bound? name (first ++ second) = (bound? name first).or (bound? name second) :=
  List.find?_append

theorem bound?_localBindings (statements : List (Stmt Pos)) :
    bound? name (localBindings statements) = latest? name statements := by
  rw [bound?, localBindings, List.find?_flatMap]
  rfl

theorem bound?_paramBindings : bound? name (paramBindings params) = lastParam? name params := by
  rw [bound?, paramBindings, lastParam?, ← List.filterMap_reverse]
  -- Both go through the parameters from the last one, and only one of them skips those without a
  -- name.
  induction params.reverse with
  | nil => rfl
  | cons param rest ih =>
    obtain ⟨type, written⟩ := param
    cases written with
    | none => simpa using ih
    | some written =>
      by_cases h : written = name
      · simp [h, Binding.name]
      · simpa [h, Binding.name] using ih

/-- Among all that is bound behind some statements of a block, the nearest binding is the first. -/
theorem bound?_localBindings_append (path : List Frame) (statements : List (Stmt Pos)) :
    bound? name (localBindings statements ++ bindingsAround params path) =
      nearest? params name path statements := by
  induction path generalizing statements with
  | nil => rw [bound?_append, bound?_localBindings, bindingsAround, bound?_paramBindings, nearest?]
  | cons frame outer ih =>
    rw [bound?_append, bound?_localBindings, bindingsAround, bound?_append, ih, nearest?]

theorem bound?_visible (position : Position) :
    bound? name (position.visible params) = position.nearest? params name := by
  rw [Position.visible, bound?_append, bound?_localBindings_append, Position.nearest?]

end Visible

end Throws.Surface
