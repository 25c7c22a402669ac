import Throws.Effect.Walk

/-!
# Effect inference

`infer` computes which exceptions may escape from a piece of a body. Every operand and every branch
counts, whichever of them is taken when the program runs; only a `try` removes exceptions. Its
handlers are matched in order by exact type, and what remains of the body's effect is joined by the
effects of the handlers. Inside a handler a bare `throw;` throws what the handler catches.

The walk also notes where an unbounded effect arises. When the handlers of a `try` bound the effect
of its body, the places inside the body no longer count.
-/

namespace Throws.Effect

open Throws.Body

/-- What a walk through a body needs to know. -/
structure Context where
  /-- The contracts of the functions that are called. -/
  signatures : Signature.Source
  /-- The function whose body it is, for reports. -/
  function : Option FunctionKey := none
  /-- Whether recoverable errors are collected; otherwise the first one stops the walk. -/
  collecting : Bool := true

/-- The place of a call of a function whose contract is unbounded. -/
def callSite (contract : Contract) (key : FunctionKey) (span : Span) : Site := {
  reason := if contract.isDeclared then "call to " ++ key.symbol ++ " declared throws(...)"
    else "call to unannotated function " ++ key.symbol
  span := span
  callee := some key }

/-- The place of a call through a function value whose contract is unbounded. -/
def valueCallSite (span : Span) : Site :=
  { reason := "call through a function value without a bounded contract", span := span }

/-- The place of a bare `throw;` that throws just anything. -/
def rethrowSite (handled : Option ExceptionSet) (span : Span) : Site := {
  reason := if handled.isSome then "rethrow inside catch (...)"
    else "rethrow outside of a catch handler"
  span := span }

namespace Context

variable (context : Context)

/-- Reports a recoverable error. -/
def report (problem : Problem) (span : Span) : Walk Unit :=
  let diagnostic := problem.report context.function span
  if context.collecting then
    Walk.modify fun trace => { trace with diagnostics := trace.diagnostics ++ [diagnostic] }
  else Walk.stop (.rejected diagnostic)

/-- The effect of throwing a value of the given type. -/
def thrown (type : Option ValueType) (span : Span) : Walk ExceptionSet :=
  match type with
  | none => Walk.stop (.malformed .untypedThrow span)
  | some type => do
    unless type.isPlain do context.report (.thrown type) span
    return .single type.name

/-- Reports whatever is wrong with the type that a handler catches. -/
def checkClause (clause : Clause) : Walk Unit :=
  match clause.type with
  | none => return ()
  | some type => do
    if type.isRef then context.report (.caughtByReference type) clause.span
    if type.isQualified then context.report (.caughtQualified type) clause.span

/-- The effect of calling a function with the given contract. -/
def called (key : FunctionKey) (span : Span) : Walk ExceptionSet := do
  let contract := context.signatures.lookup key
  if contract.effective.isUniversal then Walk.addSite (callSite contract key span)
  return contract.effective

end Context

/-- The effect of calling through a function value that promises `contract`. -/
def calledThrough (contract : Contract) (span : Span) : Walk ExceptionSet := do
  if contract.effective.isUniversal then Walk.addSite (valueCallSite span)
  return contract.effective

/-- The effect of a bare `throw;` where `handled` is what the innermost handler catches. -/
def rethrown (handled : Option ExceptionSet) (span : Span) : Walk ExceptionSet := do
  let effect := handled.getD .universal
  if effect.isUniversal then Walk.addSite (rethrowSite handled span)
  return effect

/-- What a handler catches. -/
def caught (clause : Clause) : ExceptionSet :=
  match clause.type with
  | none => .universal
  | some type => .single type.name

/-- What the handlers leave of an effect, one after the other. -/
def uncaught (effect : ExceptionSet) (clauses : List Clause) : ExceptionSet :=
  clauses.foldl (fun remaining clause => remaining \ caught clause) effect

/-- Walks through a part that may be left out. -/
def optional (part : Node) (walk : Walk ExceptionSet) : Walk ExceptionSet :=
  match part with
  | .absent => return ∅
  | _ => walk

mutual

/-- The exceptions that may escape from a node. `handled` is what the innermost enclosing handler
catches, if there is one. -/
def infer (context : Context) : Node → Option ExceptionSet → Walk ExceptionSet
  | .absent, _ => Walk.stop (.malformed .missing {})
  | .misplaced what span, _ => Walk.stop (.malformed (.unsupported what) span)
  | .depths, _ => Walk.stop (.malformed .tooDeep {})
  | .literal _ _, _ => return ∅
  | .variable _ _, _ => return ∅
  | .call none _ spelling span, _ => Walk.stop (.malformed (.unresolvedCall spelling) span)
  | .call (some key) args _ span, handled => do
    let operands ← inferAll context args handled
    let effect ← context.called key span
    return operands ∪ effect
  | .indirectCall callee contract args span, handled => do
    let function ← infer context callee handled
    let operands ← inferAll context args handled
    let effect ← calledThrough contract span
    return function ∪ operands ∪ effect
  | .construct _ args _, handled => inferAll context args handled
  | .unary _ operand _, handled => infer context operand handled
  | .binary _ left right _, handled => do
    let first ← infer context left handled
    let second ← infer context right handled
    return first ∪ second
  | .block statements _, handled => inferAll context statements handled
  | .eval expr _, handled => infer context expr handled
  | .bind _ value _, handled => optional value (infer context value handled)
  | .ret value _, handled => optional value (infer context value handled)
  | .throw value type span, handled => do
    let operand ← infer context value handled
    let effect ← context.thrown type span
    return operand ∪ effect
  | .rethrow span, handled => rethrown handled span
  | .branch condition whenTrue whenFalse _, handled => do
    let test ← optional condition (infer context condition handled)
    let first ← optional whenTrue (infer context whenTrue handled)
    let second ← optional whenFalse (infer context whenFalse handled)
    return test ∪ first ∪ second
  | .loop body condition init step _, handled => do
    let start ← optional init (infer context init handled)
    let test ← optional condition (infer context condition handled)
    let round ← optional body (infer context body handled)
    let advance ← optional step (infer context step handled)
    return start ∪ test ∪ round ∪ advance
  | .leave _, _ => return ∅
  | .next _, _ => return ∅
  | .guarded body clauses _, handled => do
    let before ← Walk.trace
    let effect ← infer context body handled
    clauses.forM context.checkClause
    let remaining := uncaught effect clauses
    unless remaining.isUniversal do
      Walk.modify fun trace => { trace with sites := before.sites }
    let handlers ← inferHandlers context clauses
    return remaining ∪ handlers

/-- The exceptions that may escape from any of several nodes; parts left out are passed over. -/
def inferAll (context : Context) : List Node → Option ExceptionSet → Walk ExceptionSet
  | [], _ => return ∅
  | node :: rest, handled => do
    let first ← optional node (infer context node handled)
    let others ← inferAll context rest handled
    return first ∪ others

/-- The exceptions that may escape from any of several handlers. -/
def inferHandlers (context : Context) : List Clause → Walk ExceptionSet
  | [] => return ∅
  | clause :: rest => do
    let first ← inferHandler context clause
    let others ← inferHandlers context rest
    return first ∪ others

/-- The exceptions that may escape from one handler. -/
def inferHandler (context : Context) : Clause → Walk ExceptionSet
  | .mk type binder block span => infer context block (some (caught (.mk type binder block span)))

end

end Throws.Effect
