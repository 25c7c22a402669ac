import Throws.Proofs.Summary

/-!
# Execution and the soundness of inference

A nondeterministic big-step semantics of bodies, and the proof that inference accounts for every
exception that an execution can end with.

Executions follow the control flow of a body and nothing else: which branch is taken, how often a
loop goes round and whether a call returns or throws is left open. An execution ends normally, by
one of the jumps `return`, `break` and `continue`, or by throwing. A call runs one of the
definitions of the function; a function without a definition may do whatever its contract allows.

`Exec.mem_effect` is the main result. It assumes that no definition lets more escape than the
contract of its function allows, and concludes the same for every piece of code. Without any
definitions the assumption is empty, which gives the soundness of inference by itself.
-/

namespace Throws.Execution

open Throws.Body Throws.Effect

/-- How an execution ends. -/
inductive Outcome where
  /-- It comes to its end. -/
  | done
  /-- It leaves the function by a `return`. -/
  | returned
  /-- It leaves the loop by a `break`. -/
  | left
  /-- It goes to the next round of the loop by a `continue`. -/
  | continued
  /-- It ends with an exception of the given type. -/
  | threw (exception : String)

/-- What surrounds an execution. -/
structure World where
  /-- The definitions that a call may run. -/
  definitions : List Function
  /-- The contracts of the functions that have no definition. -/
  signatures : Signature.Source

/-- A piece of code that is executed. -/
inductive Code where
  /-- One node. -/
  | node (node : Node)
  /-- Nodes one after the other. -/
  | sequence (nodes : List Node)
  /-- The rounds of a loop with these parts. -/
  | rounds (parts : List Node)

/-- Whether a handler catches exceptions of the given type. Types are compared by name, whatever
their qualifiers. -/
def catches (exception : String) (clause : Clause) : Bool :=
  match clause.type with
  | none => true
  | some type => type.name == exception

/-- The nodes that are executed before a node does anything itself, from left to right. -/
def operands : Node → List Node
  | .call _ args _ _ => args
  | .indirectCall callee _ args _ => callee :: args
  | .construct _ args _ => args
  | .unary _ operand _ => [operand]
  | .binary _ left right _ => [left, right]
  | .block statements _ => statements
  | .eval expr _ => [expr]
  | .bind _ value _ => [value]
  | .ret value _ => [value]
  | .throw value _ _ => [value]
  | .branch condition _ _ _ => [condition]
  | .loop _ _ init _ _ => [init]
  | _ => []

/-- Whether a node does nothing but execute its operands. -/
def isPassive : Node → Bool
  | .absent | .literal _ _ | .variable _ _ | .construct _ _ _ | .unary _ _ _ | .binary _ _ _ _
  | .block _ _ | .eval _ _ | .bind _ _ _ => true
  | _ => false

/-- Executions. `handled` is the exception being handled by the innermost handler around the code,
if there is one. -/
inductive Exec (world : World) : Code → Option String → Outcome → Prop
  /-- A sequence comes to its end. -/
  | nil {handled} : Exec world (.sequence []) handled .done
  /-- A sequence goes on after a node that comes to its end. -/
  | cons {node rest handled outcome} :
      Exec world (.node node) handled .done → Exec world (.sequence rest) handled outcome →
      Exec world (.sequence (node :: rest)) handled outcome
  /-- A sequence is cut short by a node that does not come to its end. -/
  | cut {node rest handled outcome} :
      Exec world (.node node) handled outcome → outcome ≠ .done →
      Exec world (.sequence (node :: rest)) handled outcome
  /-- A node is cut short by its operands. -/
  | operand {node handled outcome} :
      Exec world (.sequence (operands node)) handled outcome → outcome ≠ .done →
      Exec world (.node node) handled outcome
  /-- A passive node ends after its operands. -/
  | passive {node handled} :
      Exec world (.sequence (operands node)) handled .done → isPassive node = true →
      Exec world (.node node) handled .done
  /-- An operator may do without its second operand. -/
  | shortCircuit {op left right span handled} :
      Exec world (.node left) handled .done →
      Exec world (.node (.binary op left right span)) handled .done
  /-- A `return` leaves the function. -/
  | ret {value span handled} :
      Exec world (.sequence [value]) handled .done →
      Exec world (.node (.ret value span)) handled .returned
  /-- A `break` leaves the loop. -/
  | leave {span handled} : Exec world (.node (.leave span)) handled .left
  /-- A `continue` leaves the round. -/
  | next {span handled} : Exec world (.node (.next span)) handled .continued
  /-- A throw throws the static type of its value. -/
  | throw {value type span handled} :
      Exec world (.sequence [value]) handled .done →
      Exec world (.node (.throw value (some type) span)) handled (.threw type.name)
  /-- A bare `throw;` throws the exception being handled. -/
  | rethrow {span exception} :
      Exec world (.node (.rethrow span)) (some exception) (.threw exception)
  /-- Outside of any handler a bare `throw;` throws just anything. -/
  | rethrowAny {span exception} :
      Exec world (.node (.rethrow span)) none (.threw exception)
  /-- A call runs a definition, which does not throw. -/
  | callEnds {key args spelling span handled function body outcome} :
      Exec world (.sequence args) handled .done → function ∈ world.definitions →
      function.key = key → function.body = some body → Exec world (.node body) none outcome →
      (∀ exception, outcome ≠ .threw exception) →
      Exec world (.node (.call (some key) args spelling span)) handled .done
  /-- A call runs a definition, which throws. -/
  | callThrows {key args spelling span handled function body exception} :
      Exec world (.sequence args) handled .done → function ∈ world.definitions →
      function.key = key → function.body = some body →
      Exec world (.node body) none (.threw exception) →
      Exec world (.node (.call (some key) args spelling span)) handled (.threw exception)
  /-- A call of a function without a definition does not throw. -/
  | externEnds {key args spelling span handled} :
      Exec world (.sequence args) handled .done →
      (∀ function ∈ world.definitions, function.key ≠ key) →
      Exec world (.node (.call (some key) args spelling span)) handled .done
  /-- A call of a function without a definition throws what the contract allows. -/
  | externThrows {key args spelling span handled exception} :
      Exec world (.sequence args) handled .done →
      (∀ function ∈ world.definitions, function.key ≠ key) →
      exception ∈ (world.signatures.lookup key).effective →
      Exec world (.node (.call (some key) args spelling span)) handled (.threw exception)
  /-- A call through a function value does not throw. -/
  | indirectEnds {callee contract args span handled} :
      Exec world (.sequence (callee :: args)) handled .done →
      Exec world (.node (.indirectCall callee contract args span)) handled .done
  /-- A call through a function value throws what its contract allows. -/
  | indirectThrows {callee contract args span handled exception} :
      Exec world (.sequence (callee :: args)) handled .done → exception ∈ contract.effective →
      Exec world (.node (.indirectCall callee contract args span)) handled (.threw exception)
  /-- A choice takes one of its blocks. -/
  | branch {condition whenTrue whenFalse span handled chosen outcome} :
      Exec world (.sequence [condition]) handled .done → chosen ∈ [whenTrue, whenFalse] →
      Exec world (.node chosen) handled outcome →
      Exec world (.node (.branch condition whenTrue whenFalse span)) handled outcome
  /-- A loop goes round. The kinds of loops differ in the order of their parts, so any order will
  do. -/
  | loop {body condition init step span handled outcome} :
      Exec world (.sequence [init]) handled .done →
      Exec world (.rounds [condition, body, step]) handled outcome →
      Exec world (.node (.loop body condition init step span)) handled outcome
  /-- A loop may end at any time. -/
  | roundsEnd {parts handled} : Exec world (.rounds parts) handled .done
  /-- A loop may go on after a part that ends or continues. -/
  | roundsNext {parts part handled outcome last} :
      part ∈ parts → Exec world (.node part) handled outcome →
      outcome = .done ∨ outcome = .continued → Exec world (.rounds parts) handled last →
      Exec world (.rounds parts) handled last
  /-- A loop is left by a `break`. -/
  | roundsLeft {parts part handled} :
      part ∈ parts → Exec world (.node part) handled .left →
      Exec world (.rounds parts) handled .done
  /-- A loop is cut short by a `return` or an exception. -/
  | roundsCut {parts part handled outcome} :
      part ∈ parts → Exec world (.node part) handled outcome →
      (outcome = .returned ∨ ∃ exception, outcome = .threw exception) →
      Exec world (.rounds parts) handled outcome
  /-- A `try` whose body does not throw. -/
  | unguarded {body clauses span handled outcome} :
      Exec world (.node body) handled outcome → (∀ exception, outcome ≠ .threw exception) →
      Exec world (.node (.guarded body clauses span)) handled outcome
  /-- A `try` whose body throws something that no handler catches. -/
  | escaped {body clauses span handled exception} :
      Exec world (.node body) handled (.threw exception) →
      clauses.find? (catches exception) = none →
      Exec world (.node (.guarded body clauses span)) handled (.threw exception)
  /-- A `try` whose body throws something that a handler catches; the first one that does is run,
  and the exception is the one being handled there. -/
  | caught {body clauses span handled exception clause outcome} :
      Exec world (.node body) handled (.threw exception) →
      clauses.find? (catches exception) = some clause →
      Exec world (.node clause.block) (some exception) outcome →
      Exec world (.node (.guarded body clauses span)) handled outcome

/-- What may be handled outside of a fragment for which inference was started with `set`: an
exception from the set, and anything at all if there is none. -/
def Admits (set : Option ExceptionSet) (handled : Option String) : Prop :=
  ∀ allowed, set = some allowed → ∃ exception, handled = some exception ∧ exception ∈ allowed

/-- Without a set, anything may be handled outside. -/
theorem admits_none (handled : Option String) : Admits none handled := fun _ h => nomatch h

/-- A handler catches what is in the set that inference takes away for it. -/
theorem catches_iff {exception : String} {clause : Clause} :
    catches exception clause = true ↔ exception ∈ Effect.caught clause := by
  unfold catches Effect.caught
  cases clause.type with
  | none => simp
  | some type =>
    rw [beq_iff_eq, ExceptionSet.mem_single]
    exact eq_comm

section Soundness

variable {context : Context} {set : Option ExceptionSet} {node part : Node} {name : String}

/-- Whatever gets through from a part may escape from the node. -/
theorem mem_effect_of_mem_parts (descent : Descent) (hpart : (descent, part) ∈ node.parts)
    (h : name ∈ uncaught (context.summary (handledBelow descent set) part).effect descent.guards) :
    name ∈ (context.summary set node).effect := by
  rw [Context.effect_summary]
  refine ExceptionSet.mem_union.mpr (.inr (ExceptionSet.mem_unionAll.mpr ⟨_, ?_, h⟩))
  exact List.mem_map.mpr ⟨(descent, part), hpart, rfl⟩

/-- Whatever a node throws itself may escape from it. -/
theorem mem_effect_of_source {own : ExceptionSet}
    (hsource : source? context.signatures set node = some own) (h : name ∈ own) :
    name ∈ (context.summary set node).effect := by
  rw [Context.effect_summary, hsource]
  exact ExceptionSet.mem_union.mpr (.inl h)

/-- Nothing escapes from a part that was left out. -/
theorem ne_absent_of_mem_effect (h : name ∈ (context.summary set node).effect) :
    node ≠ .absent := by
  rintro rfl
  rw [Context.effect_summary] at h
  exact ExceptionSet.not_mem_empty ((ExceptionSet.mem_union.mp h).elim id id)

/-- Whatever escapes from a plain part may escape from the node. -/
theorem mem_effect_of_inner (hpart : part ≠ .absent → part ∈ node.inner)
    (h : name ∈ (context.summary set part).effect) : name ∈ (context.summary set node).effect := by
  have hinner := hpart (ne_absent_of_mem_effect h)
  refine mem_effect_of_mem_parts .inside ?_ h
  cases node with
  | guarded body clauses span => exact absurd hinner List.not_mem_nil
  | _ => exact List.mem_map.mpr ⟨part, hinner, rfl⟩

/-- Every operand that is not left out is a plain part. -/
theorem mem_inner_of_mem_operands (h : part ∈ operands node) (hpresent : part ≠ .absent) :
    part ∈ node.inner := by
  cases node <;> simp_all [operands, Node.inner, Node.mem_present]

/-- Whatever escapes from a handler may escape from the `try`. -/
theorem mem_effect_of_handler {body : Node} {clauses : List Clause} {clause : Clause} {span : Span}
    (hclause : clause ∈ clauses)
    (h : name ∈ (context.summary (some (Effect.caught clause)) clause.block).effect) :
    name ∈ (context.summary set (.guarded body clauses span)).effect :=
  mem_effect_of_mem_parts (.handling clause)
    (List.mem_cons_of_mem _ (List.mem_map.mpr ⟨clause, hclause, rfl⟩)) h

/-- What may escape from a piece of code according to inference. -/
def codeEffect (context : Context) (set : Option ExceptionSet) : Code → ExceptionSet
  | .node node => (context.summary set node).effect
  | .sequence nodes | .rounds nodes => .unionAll (nodes.map fun node =>
      (context.summary set node).effect)

/-- What escapes from one of several nodes escapes from the node whose operands they are. -/
theorem mem_effect_of_operands (h : name ∈ codeEffect context set (.sequence (operands node))) :
    name ∈ codeEffect context set (.node node) := by
  obtain ⟨_, hmem, hname⟩ := ExceptionSet.mem_unionAll.mp h
  obtain ⟨part, hpart, rfl⟩ := List.mem_map.mp hmem
  exact mem_effect_of_inner (mem_inner_of_mem_operands hpart) hname

/-- What a piece of code throws is accounted for by inference, provided that no definition lets more
escape than the contract of its function allows. -/
theorem Exec.mem_effect {world : World} (hsignatures : context.signatures = world.signatures)
    (hdefinitions : ∀ function ∈ world.definitions, ∀ body, function.body = some body →
      (context.summary none body).effect ⊆ (world.signatures.lookup function.key).effective)
    {code : Code} {handled : Option String} {outcome : Outcome}
    (run : Exec world code handled outcome) (hhandled : Admits set handled)
    {exception : String} (hthrew : outcome = .threw exception) :
    exception ∈ codeEffect context set code := by
  -- By induction on the execution; the set changes where a handler or another body is entered.
  induction run generalizing set exception with
  | nil | passive | shortCircuit | ret | leave | next | callEnds | externEnds | indirectEnds
  | roundsEnd | roundsLeft => cases hthrew
  | cons _ _ _ ih =>
    refine ExceptionSet.mem_unionAll.mpr ?_
    obtain ⟨own, hown, hname⟩ := ExceptionSet.mem_unionAll.mp (ih hhandled hthrew)
    exact ⟨own, List.mem_cons_of_mem _ hown, hname⟩
  | cut _ _ ih =>
    exact ExceptionSet.mem_unionAll.mpr ⟨_, List.mem_cons_self, ih hhandled hthrew⟩
  | operand _ _ ih => exact mem_effect_of_operands (ih hhandled hthrew)
  | throw _ =>
    cases hthrew
    exact mem_effect_of_source rfl (ExceptionSet.mem_single.mpr rfl)
  | rethrow =>
    -- The set holds whatever is being handled; where there is none, it stands for everything.
    cases hthrew
    refine mem_effect_of_source rfl ?_
    cases set with
    | none => exact ExceptionSet.mem_universal
    | some allowed =>
      obtain ⟨_, heq, hmem⟩ := hhandled allowed rfl
      cases heq
      exact hmem
  | rethrowAny =>
    -- With a set there is an exception being handled, so this is not the rule that applied.
    refine mem_effect_of_source rfl ?_
    cases set with
    | none => exact ExceptionSet.mem_universal
    | some allowed =>
      obtain ⟨_, heq, _⟩ := hhandled allowed rfl
      cases heq
  | callThrows _ hfunction hkey hbody _ _ ih =>
    -- The body of the definition starts outside of any handler, and the contract bounds it.
    have hmem := ih (admits_none none) hthrew
    have hallowed := ExceptionSet.subset_iff.mp (hdefinitions _ hfunction _ hbody) _ hmem
    refine mem_effect_of_source (congrArg some (congrArg Contract.effective ?_)) (hkey ▸ hallowed)
    rw [hsignatures]
  | externThrows _ _ hmem _ =>
    cases hthrew
    refine mem_effect_of_source (congrArg some (congrArg Contract.effective ?_)) hmem
    rw [hsignatures]
  | indirectThrows _ hmem _ =>
    cases hthrew
    exact mem_effect_of_source rfl hmem
  | branch _ hchosen _ _ ih =>
    refine mem_effect_of_inner (fun hpresent => ?_) (ih hhandled hthrew)
    exact Node.mem_flatMap_present.mpr ⟨List.mem_cons_of_mem _ hchosen, hpresent⟩
  | loop _ _ _ ih =>
    -- Whichever round it was, the exception came out of one of the parts.
    obtain ⟨_, hmem, hname⟩ := ExceptionSet.mem_unionAll.mp (ih hhandled hthrew)
    obtain ⟨part, hpart, rfl⟩ := List.mem_map.mp hmem
    refine mem_effect_of_inner (fun hpresent => ?_) hname
    exact Node.mem_flatMap_present.mpr ⟨List.mem_cons_of_mem _ hpart, hpresent⟩
  | roundsNext _ _ _ _ _ ih => exact ih hhandled hthrew
  | roundsCut hpart _ _ ih =>
    refine ExceptionSet.mem_unionAll.mpr ⟨_, List.mem_map.mpr ⟨_, hpart, rfl⟩, ?_⟩
    exact ih hhandled hthrew
  | unguarded _ hnot _ => exact absurd hthrew (hnot exception)
  | @escaped body clauses _ _ _ _ hfind ih =>
    -- No clause matched, so removing what the clauses catch does not remove the exception.
    refine mem_effect_of_mem_parts (.guarded clauses) List.mem_cons_self ?_
    refine mem_uncaught (ih hhandled hthrew) fun clause hclause hcaught => ?_
    cases hthrew
    exact List.find?_eq_none.mp hfind clause hclause (catches_iff.mpr hcaught)
  | caught _ hfind _ _ ih =>
    -- The clause matched, so the set that its block starts with holds the exception.
    refine mem_effect_of_handler (List.mem_of_find?_eq_some hfind) (ih ?_ hthrew)
    intro allowed hallowed
    cases hallowed
    exact ⟨_, rfl, catches_iff.mp (List.find?_some hfind)⟩

end Soundness

/-- Inference is sound for every fragment and every source of contracts: whenever it returns a set,
every exception that can end an execution of the fragment is in the set. -/
theorem mem_of_infer_of_exec {signatures : Signature.Source} {function : Option FunctionKey}
    {node : Node} {set : Option ExceptionSet} {trace after : Trace} {effect : ExceptionSet}
    (h : infer { signatures := signatures, function := function } node set trace =
      (.ok effect, after))
    {handled : Option String} (hhandled : Admits set handled) {exception : String}
    (run : Exec { definitions := [], signatures := signatures } (.node node) handled
      (.threw exception)) :
    exception ∈ effect := by
  rw [(eq_summary_of_infer_eq_ok rfl h).2]
  -- There are no definitions that could break their contracts.
  refine run.mem_effect rfl (fun function hfunction => ?_) hhandled rfl
  exact absurd hfunction List.not_mem_nil

/-- A loop that passes on what it catches:
`while (more) { try { f(); } catch (A) { throw; } continue; }`. -/
def retryLoop : Node :=
  .loop (.block [
      .guarded (.eval (.call (some { name := "f" }) [] none {}) {})
        [.mk (some { name := "A" }) none (.block [.rethrow {}] {}) {}] {},
      .next {}] {})
    (.variable "more" {}) .absent .absent {}

/-- With `f` declared `throws(A)`, `retryLoop` may go round once and end with `A` in its second
round, and inference says so. -/
theorem mem_infer_retryLoop :
    let signatures : Signature.Source := ⟨fun _ => some (.declared (.single "A"))⟩
    let world : World := { definitions := [], signatures := signatures }
    infer { signatures := signatures } retryLoop none {} = (.ok (.single "A"), {}) ∧
      Exec world (.node retryLoop) (some "B") (.threw "A") ∧
      "A" ∈ ExceptionSet.single "A" := by
  intro signatures world
  have h : infer { signatures := signatures } retryLoop none {} = (.ok (.single "A"), {}) := by rfl
  have hnone : ∀ function ∈ world.definitions, function.key ≠ { name := "f" } :=
    List.forall_mem_nil _
  have hcall : Exec world (.node (.call (some { name := "f" }) [] none {})) (some "B")
      (.threw "A") :=
    .externThrows .nil hnone (ExceptionSet.mem_single.mpr rfl)
  have hreturn : Exec world (.node (.call (some { name := "f" }) [] none {})) (some "B") .done :=
    .externEnds .nil hnone
  have hround : Exec world (.node retryLoop) (some "B") (.threw "A") := by
    refine .loop (.cons (.passive .nil rfl) .nil) ?_
    refine .roundsNext (.tail _ (.head _)) ?_ (.inr rfl)
      (.roundsCut (.tail _ (.head _)) ?_ (.inr ⟨"A", rfl⟩))
    · refine .operand (.cons (.unguarded (.passive (.cons hreturn .nil) rfl) nofun) ?_) nofun
      exact .cut .next nofun
    · refine .operand (.cut (.caught (.operand (.cut hcall nofun) nofun) rfl ?_) nofun) nofun
      exact .operand (.cut .rethrow nofun) nofun
  exact ⟨h, hround, mem_of_infer_of_exec h (admits_none _) hround⟩

end Throws.Execution
