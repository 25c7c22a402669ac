import Mathlib.Data.List.Basic
import Throws.Proofs.ExprSites
import Throws.Proofs.LoweredProgram

/-!
# Landmarks in source texts and in bodies

Exceptions come from calls and throws, and they are caught by the handlers of `try` statements.
These are the landmarks of a body, and their nesting is the outline of the body. `Block.landmarks`
reads the outline off a source text and `Node.landmarks` off a resolved body.

* `landmarks_lowerBlock`: resolving a block keeps its outline. Nothing is lost, nothing is there
  twice and nothing moves into or out of a `try` or a handler.
* `spotsOf_landmarks`: the outline of a body says all that there is to say about the landmarks among
  the nodes of the body and about what encloses each of them.

Parts of a loop are listed in the same order everywhere, first the condition, then the body and then
the step, since a resolved loop does not say of what kind it is.
-/

namespace Throws

/-- A handler seen from outside. -/
structure Guard where
  /-- Whether it catches everything. -/
  catchesAll : Bool
  /-- Where it stands. -/
  span : Span
deriving DecidableEq

mutual

/-- A construct that exceptions come from or that catches them, with those inside of it. -/
inductive Landmark where
  /-- A call, with what is inside of the called expression and of the arguments. -/
  | call (inside : List Landmark) (span : Span)
  /-- A throw of a value, with what is inside of its operand. -/
  | throw (inside : List Landmark) (span : Span)
  /-- A bare `throw;`. -/
  | rethrow (span : Span)
  /-- A `try`, with what is inside of its body, and its handlers in order. -/
  | guarded (body : List Landmark) (handlers : List HandlerMark) (span : Span)

/-- A handler, with what is inside of its block. -/
inductive HandlerMark where
  | mk (guard : Guard) (inside : List Landmark)

end

/-- The handler without what is inside of it. -/
def HandlerMark.guard : HandlerMark → Guard
  | .mk guard _ => guard

/-- A `try` body or a handler around a landmark. A body is known by the handlers that guard it. -/
inductive Enclosure where
  /-- Inside of the body of a `try` with these handlers. -/
  | body (handlers : List Guard)
  /-- Inside of the block of this handler. -/
  | handler (handler : Guard)
deriving DecidableEq

/-- What a landmark is by itself, apart from what is inside of it. -/
inductive Role where
  | call
  | throw
  | rethrow
  | guarded (handlers : List Guard)
deriving DecidableEq

/-- A landmark by itself, with everything that encloses it. -/
structure Spot where
  /-- The enclosing bodies and handlers, the outermost first. -/
  enclosing : List Enclosure
  /-- What it is. -/
  role : Role
  /-- Where it stands. -/
  span : Span
deriving DecidableEq

mutual

/-- A landmark and those inside of it, one by one, where `outer` encloses all of them. -/
def Landmark.spots (outer : List Enclosure) : Landmark → List Spot
  | .call inside span => ⟨outer, .call, span⟩ :: spotsOf outer inside
  | .throw inside span => ⟨outer, .throw, span⟩ :: spotsOf outer inside
  | .rethrow span => [⟨outer, .rethrow, span⟩]
  | .guarded body handlers span =>
    let guards := handlers.map HandlerMark.guard
    ⟨outer, .guarded guards, span⟩ ::
      (spotsOf (outer ++ [.body guards]) body ++ spotsOfHandlers outer handlers)

/-- The landmarks of an outline one by one. -/
def spotsOf (outer : List Enclosure) : List Landmark → List Spot
  | [] => []
  | landmark :: rest => landmark.spots outer ++ spotsOf outer rest

/-- The landmarks inside of a handler. -/
def HandlerMark.spots (outer : List Enclosure) : HandlerMark → List Spot
  | .mk guard inside => spotsOf (outer ++ [.handler guard]) inside

/-- The landmarks inside of several handlers. -/
def spotsOfHandlers (outer : List Enclosure) : List HandlerMark → List Spot
  | [] => []
  | handler :: rest => handler.spots outer ++ spotsOfHandlers outer rest

end

theorem spotsOf_append (outer : List Enclosure) (first second : List Landmark) :
    spotsOf outer (first ++ second) = spotsOf outer first ++ spotsOf outer second := by
  induction first with
  | nil => rfl
  | cons landmark rest ih => rw [List.cons_append, spotsOf, spotsOf, ih, List.append_assoc]

theorem spotsOf_flatMap {α : Type} (outer : List Enclosure) (items : List α)
    (landmarks : α → List Landmark) :
    spotsOf outer (items.flatMap landmarks) =
      items.flatMap fun item => spotsOf outer (landmarks item) := by
  induction items with
  | nil => rfl
  | cons item rest ih => rw [List.flatMap_cons, spotsOf_append, ih, List.flatMap_cons]

theorem spotsOfHandlers_eq_flatMap (outer : List Enclosure) (handlers : List HandlerMark) :
    spotsOfHandlers outer handlers = handlers.flatMap (HandlerMark.spots outer) :=
  Surface.eq_flatMap_of_cons rfl (fun _ _ => rfl) handlers

/-- The outline of something with a single landmark on top. -/
theorem spotsOf_singleton (outer : List Enclosure) (landmark : Landmark) :
    spotsOf outer [landmark] = landmark.spots outer := List.append_nil _

end Throws

namespace Throws.Surface

/-! ## Source texts -/

section Landmarks

variable (spanOf : Pos → Span)

mutual

/-- The landmarks in an expression. -/
def Expr.landmarks : Expr Pos → List Landmark
  | .literal _ _ | .name _ _ => []
  | .call function args loc => [.call (function.landmarks ++ landmarksOfExprs args) (spanOf loc)]
  | .unary _ operand _ => operand.landmarks
  | .binary _ left right _ => left.landmarks ++ right.landmarks
  | .assign target value _ => target.landmarks ++ value.landmarks

/-- The landmarks in several expressions. -/
def landmarksOfExprs : List (Expr Pos) → List Landmark
  | [] => []
  | expr :: rest => expr.landmarks ++ landmarksOfExprs rest

end

/-- The landmarks in an expression that may be left out. -/
def landmarksOfOptional : Option (Expr Pos) → List Landmark
  | none => []
  | some expr => expr.landmarks spanOf

/-- The landmarks in the first part of a `for`. -/
def ForInit.landmarks : ForInit Pos → List Landmark
  | .none => []
  | .expr value _ => value.landmarks spanOf
  | .decl inner => landmarksOfOptional spanOf inner.value

mutual

/-- The landmarks in a statement. -/
def Stmt.landmarks : Stmt Pos → List Landmark
  | .expr value _ => value.landmarks spanOf
  | .decl inner => landmarksOfOptional spanOf inner.value
  | .block inner => inner.landmarks
  | .ret value _ => landmarksOfOptional spanOf value
  | .throw value loc => [.throw (value.landmarks spanOf) (spanOf loc)]
  | .rethrow loc => [.rethrow (spanOf loc)]
  | .guarded body handlers loc => [.guarded body.landmarks (handlerMarks handlers) (spanOf loc)]
  | .branch inner => inner.landmarks
  -- A `do` loop is listed like a `while` loop, with its condition first.
  | .while condition body _ => condition.landmarks spanOf ++ body.landmarks
  | .doWhile body condition _ => condition.landmarks spanOf ++ body.landmarks
  | .for init condition step body _ =>
    init.landmarks spanOf ++ (landmarksOfOptional spanOf condition ++
      (body.landmarks ++ landmarksOfOptional spanOf step))
  | .break _ | .continue _ | .empty _ => []

/-- The landmarks in statements in a row. -/
def landmarksOfStmts : List (Stmt Pos) → List Landmark
  | [] => []
  | stmt :: rest => stmt.landmarks ++ landmarksOfStmts rest

/-- The landmarks in a block. -/
def Block.landmarks : Block Pos → List Landmark
  | .mk statements _ => landmarksOfStmts statements

/-- A handler with what is inside of it. -/
def Handler.mark : Handler Pos → HandlerMark
  | .mk type _ block loc => .mk ⟨type.isNone, spanOf loc⟩ block.landmarks

/-- Several handlers in order. -/
def handlerMarks : List (Handler Pos) → List HandlerMark
  | [] => []
  | handler :: rest => handler.mark :: handlerMarks rest

/-- The landmarks in an `if`. -/
def Branch.landmarks : Branch Pos → List Landmark
  | .mk condition whenTrue otherwise _ =>
    condition.landmarks spanOf ++ (whenTrue.landmarks ++ otherwise.landmarks)

/-- The landmarks in what follows the block of an `if`. -/
def Otherwise.landmarks : Otherwise Pos → List Landmark
  | .none => []
  | .block inner => inner.landmarks
  | .chain inner => inner.landmarks

end

end Landmarks

end Throws.Surface

namespace Throws.Body

/-! ## Bodies -/

/-- A handler of a resolved body seen from outside. -/
def Clause.guard (clause : Clause) : Guard := ⟨clause.catchesAll, clause.span⟩

mutual

/-- The landmarks in a node. -/
def Node.landmarks : Node → List Landmark
  | .call _ args _ span => [.call (landmarksOfNodes args) span]
  | .indirectCall callee _ args span => [.call (callee.landmarks ++ landmarksOfNodes args) span]
  | .construct _ args span => [.call (landmarksOfNodes args) span]
  | .unary _ operand _ => operand.landmarks
  | .binary _ left right _ => left.landmarks ++ right.landmarks
  | .block statements _ => landmarksOfNodes statements
  | .eval expr _ => expr.landmarks
  | .bind _ value _ => value.landmarks
  | .ret value _ => value.landmarks
  | .throw value _ span => [.throw value.landmarks span]
  | .rethrow span => [.rethrow span]
  | .branch condition whenTrue whenFalse _ =>
    condition.landmarks ++ (whenTrue.landmarks ++ whenFalse.landmarks)
  | .loop body condition init step _ =>
    init.landmarks ++ (condition.landmarks ++ (body.landmarks ++ step.landmarks))
  | .guarded body clauses span => [.guarded body.landmarks (clauseMarks clauses) span]
  | _ => []

/-- The landmarks in several nodes. -/
def landmarksOfNodes : List Node → List Landmark
  | [] => []
  | node :: rest => node.landmarks ++ landmarksOfNodes rest

/-- Several handlers in order, each with what is inside of it. -/
def clauseMarks : List Clause → List HandlerMark
  | [] => []
  | clause :: rest => clause.mark :: clauseMarks rest

/-- A handler with what is inside of it. -/
def Clause.mark : Clause → HandlerMark
  | .mk type _ block span => .mk ⟨type.isNone, span⟩ block.landmarks

end

theorem landmarksOfNodes_eq_flatMap (nodes : List Node) :
    landmarksOfNodes nodes = nodes.flatMap Node.landmarks :=
  Surface.eq_flatMap_of_cons rfl (fun _ _ => rfl) nodes

theorem clauseMarks_eq_map (clauses : List Clause) :
    clauseMarks clauses = clauses.map Clause.mark :=
  Surface.eq_map_of_cons rfl (fun _ _ => rfl) clauses

/-- What a node is by itself and where it stands, if it is a landmark. -/
def Node.role? : Node → Option (Role × Span)
  | .call _ _ _ span | .indirectCall _ _ _ span | .construct _ _ span => some (.call, span)
  | .throw _ _ span => some (.throw, span)
  | .rethrow span => some (.rethrow, span)
  | .guarded _ clauses span => some (.guarded (clauses.map Clause.guard), span)
  | _ => none

/-- The body or the handler that is entered, if it is one. -/
def Descent.enclosure? : Descent → Option Enclosure
  | .inside => none
  | .guarded clauses => some (.body (clauses.map Clause.guard))
  | .handling clause => some (.handler clause.guard)

/-- An occurrence of a landmark with what encloses it, `outer` included. -/
def Occurrence.spot? (outer : List Enclosure) (occurrence : Occurrence) : Option Spot :=
  occurrence.node.role?.map fun (role, span) =>
    ⟨outer ++ occurrence.path.filterMap Descent.enclosure?, role, span⟩

/-- Seen from further out, one more enclosure may lie around an occurrence. -/
theorem Occurrence.spot?_under (outer : List Enclosure) (descent : Descent)
    (occurrence : Occurrence) :
    (occurrence.under descent).spot? outer =
      occurrence.spot? (outer ++ descent.enclosure?.toList) := by
  unfold spot? under
  rw [List.filterMap_cons]
  cases descent.enclosure? <;> simp

namespace Node

/-- Parts that were left out have no landmarks. -/
theorem flatMap_landmarks_present (nodes : List Node) :
    (nodes.flatMap present).flatMap landmarks = nodes.flatMap landmarks := by
  have hpresent : ∀ node : Node, node.present.flatMap landmarks = node.landmarks := by
    intro node
    by_cases h : node = .absent
    · rw [h]
      rfl
    · rw [present_of_ne_absent h, List.flatMap_singleton]
  rw [List.flatMap_assoc]
  simp only [hpresent]

/-- The landmarks of a `try` are the `try` itself, those in its body and those in its handlers. -/
theorem spotsOf_guarded (outer : List Enclosure) (body : Node) (clauses : List Clause)
    (span : Span) :
    spotsOf outer (Node.guarded body clauses span).landmarks =
      ⟨outer, .guarded (clauses.map Clause.guard), span⟩ ::
        (Node.guarded body clauses span).parts.flatMap fun part =>
          spotsOf (outer ++ part.1.enclosure?.toList) part.2.landmarks := by
  have hguards : (clauses.map Clause.mark).map HandlerMark.guard = clauses.map Clause.guard := by
    rw [List.map_map]
    refine List.map_congr_left fun clause _ => ?_
    cases clause
    rfl
  have hhandlers : spotsOfHandlers outer (clauses.map Clause.mark) = clauses.flatMap fun clause =>
      spotsOf (outer ++ [.handler clause.guard]) clause.block.landmarks := by
    rw [spotsOfHandlers_eq_flatMap, List.flatMap_map]
    refine List.flatMap_congr fun clause _ => ?_
    cases clause
    rfl
  rw [landmarks, spotsOf_singleton, Landmark.spots, clauseMarks_eq_map, hguards, hhandlers]
  simp [parts, List.flatMap_map, Descent.enclosure?]

/-- The landmarks of a node are the node itself, if it is one, and those of its parts. -/
theorem spotsOf_landmarks_eq (outer : List Enclosure) (node : Node) :
    spotsOf outer node.landmarks = ((⟨[], node⟩ : Occurrence).spot? outer).toList ++
      node.parts.flatMap fun part =>
        spotsOf (outer ++ part.1.enclosure?.toList) part.2.landmarks := by
  have hself : (⟨[], node⟩ : Occurrence).spot? outer =
      node.role?.map fun (role, span) => ⟨outer, role, span⟩ := by
    simp [Occurrence.spot?]
  -- Nothing encloses a part that simply lies inside.
  have hinner : ∀ nodes : List Node,
      ((nodes.map fun part => (Descent.inside, part)).flatMap fun part =>
        spotsOf (outer ++ part.1.enclosure?.toList) part.2.landmarks) =
      spotsOf outer (nodes.flatMap landmarks) := by
    intro nodes
    rw [spotsOf_flatMap, List.flatMap_map]
    simp [Descent.enclosure?]
  have hpresent : ∀ nodes : List Node,
      (((nodes.flatMap present).map fun part => (Descent.inside, part)).flatMap fun part =>
        spotsOf (outer ++ part.1.enclosure?.toList) part.2.landmarks) =
      spotsOf outer (landmarksOfNodes nodes) := by
    intro nodes
    rw [hinner, flatMap_landmarks_present, landmarksOfNodes_eq_flatMap]
  rw [hself]
  cases node with
  -- The first four are landmarks themselves, and they are listed in front of their parts.
  | call _ args _ _ | construct _ args _ =>
    rw [landmarks, spotsOf_singleton, Landmark.spots, ← hpresent]
    rfl
  | indirectCall callee contract args span =>
    rw [landmarks, spotsOf_singleton, Landmark.spots, spotsOf_append, ← hpresent]
    simp [parts, inner, role?, Descent.enclosure?]
  | throw value type span =>
    rw [landmarks, spotsOf_singleton, Landmark.spots]
    simpa [parts, inner, role?] using (hinner [value]).symm
  | guarded body clauses span => exact spotsOf_guarded outer body clauses span
  | block statements span => exact (hpresent statements).symm
  | unary _ operand _ | eval operand _ =>
    simpa [landmarks, parts, inner, role?] using (hinner [operand]).symm
  | binary op left right span =>
    simpa [landmarks, parts, inner, role?] using (hinner [left, right]).symm
  | bind _ value _ | ret value _ =>
    simpa [landmarks, landmarksOfNodes, parts, inner, role?] using (hpresent [value]).symm
  | branch condition whenTrue whenFalse span =>
    simpa [landmarks, landmarksOfNodes, parts, inner, role?] using
      (hpresent [condition, whenTrue, whenFalse]).symm
  | loop body condition init step span =>
    simpa [landmarks, landmarksOfNodes, parts, inner, role?] using
      (hpresent [init, condition, body, step]).symm
  | _ => rfl

/-- The outline of a node lists the landmarks among its occurrences, in the order of a walk and each
with what encloses it. -/
theorem spotsOf_landmarks (outer : List Enclosure) (node : Node) :
    spotsOf outer node.landmarks = node.occurrences.filterMap (Occurrence.spot? outer) := by
  -- By induction on parts. What encloses a part is more than what encloses the node, so the
  -- statement is about every `outer`.
  refine Node.parts_induction (motive := fun node => ∀ outer,
    spotsOf outer node.landmarks = node.occurrences.filterMap (Occurrence.spot? outer))
    (fun node ih outer => ?_) node outer
  have hpart : ∀ part ∈ node.parts,
      spotsOf (outer ++ part.1.enclosure?.toList) part.2.landmarks =
        (part.2.occurrences.map (Occurrence.under part.1)).filterMap
          (Occurrence.spot? outer) := by
    intro part hmem
    have hunder : Occurrence.spot? outer ∘ Occurrence.under part.1 = _ :=
      funext (Occurrence.spot?_under outer part.1)
    rw [ih part hmem, List.filterMap_map, hunder]
  rw [spotsOf_landmarks_eq, occurrences_eq, List.flatMap_congr hpart, List.filterMap_cons,
    List.filterMap_flatMap]
  cases Occurrence.spot? outer ⟨[], node⟩ <;> rfl

end Node

end Throws.Body

namespace Throws.Resolution

open Throws.Body Throws.Surface

/-! ## Resolution keeps the outline -/

section Expressions

variable (place : Place) (scope : Scope)

/-- However a call by name is resolved, it is one call with the same arguments. -/
theorem landmarks_lowerNamedCall (name : String) (args : List Node) (span : Span) :
    (lowerNamedCall place scope name args span).value.landmarks =
      [.call (landmarksOfNodes args) span] := by
  unfold lowerNamedCall
  -- A local function value, any other local name, and what is known to the whole program.
  split
  · rfl
  · rfl
  · rw [Logged.value_bind]
    cases (place.globals.types.exception? name).value <;> rfl

/-- However a computed call is resolved, it is one call that keeps what is called. -/
theorem landmarks_computedCall (type : Option Ty) (callee : Node) (args : List Node)
    (span : Span) :
    (computedCall type callee args span).landmarks =
      [.call (callee.landmarks ++ landmarksOfNodes args) span] := by
  unfold computedCall
  split <;> rfl

end Expressions

/-- The outline of expressions in a row is made of the outlines of each of them. -/
theorem landmarksOfExprs_eq_flatMap (spanOf : Pos → Span) (exprs : List (Expr Pos)) :
    landmarksOfExprs spanOf exprs = exprs.flatMap (Expr.landmarks spanOf) :=
  eq_flatMap_of_cons rfl (fun _ _ => rfl) exprs

/-- An expression keeps its outline. -/
theorem landmarks_lowerExpr (place : Place) (scope : Scope) (expr : Expr Pos) :
    (lowerExpr place scope expr).value.landmarks = expr.landmarks place.span := by
  induction expr using Expr.induction with
  | literal value loc => rfl
  | name ident loc => rfl
  | unary op operand loc hoperand => exact hoperand
  | binary op left right loc hleft hright =>
    simp [lowerExpr, Node.landmarks, Expr.landmarks, hleft, hright]
  | assign target value loc htarget hvalue =>
    simp [lowerExpr, Node.landmarks, Expr.landmarks, htarget, hvalue]
  | call function args loc hfunction hargs =>
    have hnodes : landmarksOfNodes (lowerExprs place scope args).value =
        landmarksOfExprs place.span args := by
      rw [lowerExprs_eq_each, Logged.value_each, landmarksOfNodes_eq_flatMap,
        landmarksOfExprs_eq_flatMap, List.flatMap_map, List.flatMap_congr hargs]
    rw [Expr.landmarks, ← hnodes]
    rcases exists_name_or_computed function with ⟨ident, loc, rfl⟩ | hcomputed
    · -- There are no landmarks in a name.
      rw [value_lowerExpr_named, landmarks_lowerNamedCall, Expr.landmarks, List.nil_append]
    · rw [value_lowerExpr_computed place scope hcomputed, landmarks_computedCall, hfunction]

/-- The landmarks in what is left of a statement. -/
def Lowered.landmarks (lowered : Lowered) : List Landmark :=
  lowered.node.toList.flatMap Node.landmarks

section Parts

variable (place : Place) (scope : Scope)

theorem landmarks_lowerOptional (expr : Option (Expr Pos)) :
    (lowerOptional place scope expr).value.landmarks = landmarksOfOptional place.span expr := by
  cases expr with
  | none => rfl
  | some expr => exact landmarks_lowerExpr place scope expr

theorem landmarks_lowerDecl (decl : LocalDecl Pos) :
    (lowerDecl place scope decl).value.landmarks = landmarksOfOptional place.span decl.value := by
  rw [← landmarks_lowerOptional place scope]
  simp [lowerDecl, Lowered.landmarks, Node.landmarks]

theorem landmarks_lowerInit (init : ForInit Pos) :
    ((lowerInit place scope init).value.node.getD .absent).landmarks =
      init.landmarks place.span := by
  cases init with
  | none => rfl
  | expr value loc => exact landmarks_lowerExpr place scope value
  | decl decl => exact landmarks_lowerOptional place scope decl.value

/-- A handler catches everything after resolution exactly if it does in the text. -/
theorem isNone_lowerCaught (loc : Pos) (type : Option (TypeExpr Pos)) :
    (lowerCaught place loc type).value.isNone = type.isNone := by
  cases type with
  | none => rfl
  | some type =>
    rw [value_lowerCaught]
    rfl

end Parts

/-- The handlers of a `try` are marked one by one. -/
theorem handlerMarks_eq_map (spanOf : Pos → Span) (handlers : List (Handler Pos)) :
    handlerMarks spanOf handlers = handlers.map (Handler.mark spanOf) :=
  eq_map_of_cons rfl (fun _ _ => rfl) handlers

/-- Statements and their pieces keep their outlines, whatever is in scope where they stand. -/
def keptOutline (place : Place) : Motive Pos where
  stmt stmt := ∀ scope, (lowerStmt place scope stmt).value.landmarks = stmt.landmarks place.span
  block block := ∀ scope,
    (lowerBlock place scope block).value.landmarks = block.landmarks place.span
  handler handler := ∀ scope,
    (lowerHandler place scope handler).value.mark = handler.mark place.span
  branch branch := ∀ scope,
    (lowerBranch place scope branch).value.landmarks = branch.landmarks place.span
  otherwise otherwise := ∀ scope,
    (lowerOtherwise place scope otherwise).value.landmarks = otherwise.landmarks place.span

/-- Statements in a row keep their outlines if each of them does. -/
theorem landmarks_lowerStmts {place : Place} {stmts : List (Stmt Pos)}
    (h : ∀ stmt ∈ stmts, (keptOutline place).stmt stmt) (scope : Scope) :
    (lowerStmts place scope stmts).value.flatMap Node.landmarks =
      landmarksOfStmts place.span stmts := by
  induction stmts generalizing scope with
  | nil => rfl
  | cons stmt rest ih =>
    obtain ⟨hstmt, hrest⟩ := List.forall_mem_cons.mp h
    have hfirst := hstmt scope
    rw [Lowered.landmarks] at hfirst
    simp [lowerStmts, landmarksOfStmts, hfirst, ih hrest]

/-- A statement keeps its outline if its pieces do. -/
theorem keptOutline_inherited (place : Place) : (keptOutline place).Inherited where
  stmt stmt inside scope := by
    cases stmt with
    | decl decl => exact landmarks_lowerDecl place scope decl
    | guarded body handlers loc =>
      obtain ⟨hbody, hhandlers⟩ := inside
      simpa [lowerStmt, Stmt.landmarks, Lowered.landmarks, Node.landmarks, lowerHandlers_eq_each,
        clauseMarks_eq_map, handlerMarks_eq_map, hbody scope]
        using fun handler hmem => hhandlers handler hmem scope
    | _ =>
      -- The type of what is thrown is found by looking at it once more, which leaves nothing
      -- behind.
      simp only [Motive.Inside, keptOutline] at inside
      simp [lowerStmt, Stmt.landmarks, Lowered.landmarks, Node.landmarks, landmarks_lowerExpr,
        landmarks_lowerOptional, landmarks_lowerInit, *]
  block statements loc hstatements scope := by
    simp [lowerBlock, Block.landmarks, Node.landmarks, landmarksOfNodes_eq_flatMap,
      landmarks_lowerStmts hstatements]
  handler type binder block loc hblock scope := by
    simp [lowerHandler, Handler.mark, Clause.mark, isNone_lowerCaught, hblock _]
  branch condition whenTrue otherwise loc hwhenTrue hotherwise scope := by
    simp [lowerBranch, Branch.landmarks, Node.landmarks, landmarks_lowerExpr, hwhenTrue scope,
      hotherwise scope]
  nothing _ := rfl
  elseBlock block hblock scope := hblock scope
  elseIf branch hbranch scope := by
    simp [lowerOtherwise, Otherwise.landmarks, Node.landmarks, landmarksOfNodes, hbranch scope]

/-- The body of a function keeps its outline. -/
theorem landmarks_lowerBody (place : Place) (definition : FunctionDef Pos) :
    (lowerBody place definition).value.map Node.landmarks =
      definition.body.map (Block.landmarks place.span) := by
  rw [lowerBody]
  cases definition.body with
  | none => rfl
  | some body => exact congrArg some ((keptOutline_inherited place).block_holds body _)

/-- Resolution neither loses nor repeats nor moves a landmark. In every program, each declaration
with a body becomes a function whose body has the same outline: calls of all kinds for calls, throws
for throws, bare throws for bare throws and `try` statements for `try` statements, at the same
places, in the same bodies and handlers; the handlers of each `try` are the same in the same order
and catch everything exactly if they do in the text. So the landmarks among the nodes of the body,
each with the chain of what encloses it, are those of the text, one by one. The place of a landmark
is its line and its column in the file, if the file has a name. -/
theorem resolution_keeps_every_landmark {sources : List (String × Program Pos)} {file : String}
    {definition : FunctionDef Pos} {block : Block Pos}
    (hmem : (file, definition) ∈ declarations sources) (hblock : definition.body = some block) :
    let function := (loweredIn sources file definition).value
    function ∈ (lowerProgram sources).value.flatMap (·.functions) ∧
      ∃ body, function.body = some body ∧ body.landmarks = block.landmarks (spanAt file) ∧
        body.occurrences.filterMap (Occurrence.spot? []) =
          spotsOf [] (block.landmarks (spanAt file)) ∧
        (file ≠ "" →
          ∀ pos, spanAt file pos = ⟨some file, some pos.line, some pos.column⟩) := by
  intro function
  refine ⟨mem_flatMap_functions_iff.mpr ⟨file, definition, hmem, rfl⟩, ?_⟩
  have houtline : function.body.map Node.landmarks = some (block.landmarks (spanAt file)) := by
    have hbody := landmarks_lowerBody ⟨programGlobals sources, file⟩ definition
    rw [hblock] at hbody
    exact hbody
  obtain ⟨body, hbody, hsame⟩ := Option.map_eq_some_iff.mp houtline
  refine ⟨body, hbody, hsame, ?_, spanAt_eq⟩
  rw [← hsame, Node.spotsOf_landmarks]

/-- A function with calls of four kinds, each construct on a line of its own:
`void f(fn() p) { try { do { throw E(f(p)); } while (p()); } catch (E) { throw; }`
`catch (...) { f(p)(); } }`. -/
def guardedLoop : FunctionDef Pos where
  name := "f"
  params := [⟨.function [] {} {}, some "p"⟩]
  returnType := .named "void" false false false {}
  clauses := {}
  body :=
    let call (name : String) (args : List (Expr Pos)) (loc : Pos) : Expr Pos :=
      .call (.name name loc) args loc
    let self := call "f" [.name "p" {}]
    some (.mk [
      .guarded
        (.mk [.doWhile (.mk [.throw (call "E" [self ⟨4, 11⟩] ⟨3, 9⟩) ⟨2, 7⟩] {})
          (call "p" [] ⟨5, 14⟩) {}] {})
        [.mk (some (.named "E" false false false {})) none (.mk [.rethrow ⟨7, 5⟩] {}) ⟨6, 3⟩,
          .mk none none (.mk [.expr (.call (self ⟨9, 5⟩) [] ⟨10, 6⟩) {}] {}) ⟨8, 3⟩]
        ⟨1, 3⟩] {})
  loc := {}

/-- In `guardedLoop` an exception is constructed, and a function, a function value and the result of
a call are called. These calls, both throws, the `try` and its handlers are all found in the
resolved body, in the same body or handler as in the text and at the same lines and columns. -/
theorem landmarks_guardedLoop :
    let sources := [("a",
      ({ exceptions := [⟨"E", {}⟩], functions := [guardedLoop] } : Program Pos))]
    let typed : Guard := ⟨false, ⟨"a", some 6, some 3⟩⟩
    let all : Guard := ⟨true, ⟨"a", some 8, some 3⟩⟩
    ∃ body, (loweredIn sources "a" guardedLoop).value.body = some body ∧
      body.occurrences.filterMap (Occurrence.spot? []) = [
        ⟨[], .guarded [typed, all], ⟨"a", some 1, some 3⟩⟩,
        ⟨[.body [typed, all]], .call, ⟨"a", some 5, some 14⟩⟩,
        ⟨[.body [typed, all]], .throw, ⟨"a", some 2, some 7⟩⟩,
        ⟨[.body [typed, all]], .call, ⟨"a", some 3, some 9⟩⟩,
        ⟨[.body [typed, all]], .call, ⟨"a", some 4, some 11⟩⟩,
        ⟨[.handler typed], .rethrow, ⟨"a", some 7, some 5⟩⟩,
        ⟨[.handler all], .call, ⟨"a", some 10, some 6⟩⟩,
        ⟨[.handler all], .call, ⟨"a", some 9, some 5⟩⟩] := by
  intro sources typed all
  have hmem : ("a", guardedLoop) ∈ declarations sources := List.mem_cons_self
  obtain ⟨_, body, hbody, _, hspots, _⟩ := resolution_keeps_every_landmark hmem rfl
  exact ⟨body, hbody, hspots⟩

end Throws.Resolution
