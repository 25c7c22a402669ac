import Throws.Effect.Inference
import Throws.Proofs.Parts
import Throws.Proofs.SetAlgebra

/-!
# What a walk comes to

A walk that collects its errors only ever adds to the trace, and what it adds does not depend on
what is there already. A `Summary` is that contribution: the effect, the errors and the places of
unbounded effect, or else the first thing that cannot be analysed. Summaries of parts are put
together by `++`, and `Context.summary` does so for every node.

The main result is `infer_follows`: a walk through a node comes to the summary of the node. What
holds of inference is thus proved of summaries, by induction on parts.
-/

namespace Throws.Effect

open Throws.Body

/-- Everything that a walk through a piece of a body comes to. -/
@[ext]
structure Summary where
  /-- The first thing that cannot be analysed, and where it is. -/
  fault? : Option (Fault × Span) := none
  /-- The exceptions that may escape. -/
  effect : ExceptionSet := ∅
  /-- The recoverable errors, in the order in which they are met. -/
  problems : List Diagnostic := []
  /-- The places of unbounded effect that nothing absorbs. -/
  sites : List Site := []

namespace Summary

/-- One piece after another. -/
instance : Append Summary where
  append first second := {
    fault? := first.fault?.or second.fault?
    effect := first.effect ∪ second.effect
    problems := first.problems ++ second.problems
    sites := first.sites ++ second.sites }

@[simp]
theorem fault?_append (first second : Summary) :
    (first ++ second).fault? = first.fault?.or second.fault? := rfl

@[simp]
theorem effect_append (first second : Summary) :
    (first ++ second).effect = first.effect ∪ second.effect := rfl

@[simp]
theorem problems_append (first second : Summary) :
    (first ++ second).problems = first.problems ++ second.problems := rfl

@[simp]
theorem sites_append (first second : Summary) :
    (first ++ second).sites = first.sites ++ second.sites := rfl

@[simp]
theorem nil_append (summary : Summary) : ({} : Summary) ++ summary = summary := by
  ext1 <;> simp
  exact bot_sup_eq summary.effect

@[simp]
theorem append_nil (summary : Summary) : summary ++ ({} : Summary) = summary := by
  ext1 <;> simp
  exact sup_bot_eq summary.effect

theorem append_assoc (first second third : Summary) :
    first ++ second ++ third = first ++ (second ++ third) := by
  ext1 <;> simp [Option.or_assoc]
  exact sup_assoc first.effect second.effect third.effect

/-- Several pieces in a row. -/
def concat (summaries : List Summary) : Summary := summaries.foldr (· ++ ·) {}

@[simp]
theorem concat_nil : concat [] = {} := rfl

@[simp]
theorem concat_cons (first : Summary) (rest : List Summary) :
    concat (first :: rest) = first ++ concat rest := rfl

theorem concat_append (first second : List Summary) :
    concat (first ++ second) = concat first ++ concat second := by
  induction first with
  | nil => simp
  | cons summary first ih => rw [List.cons_append, concat_cons, concat_cons, ih, append_assoc]

/-- The first fault in a row of pieces. -/
theorem fault?_concat (summaries : List Summary) :
    (concat summaries).fault? = (summaries.map (·.fault?)).findSome? id := by
  induction summaries with
  | nil => rfl
  | cons first rest ih =>
    rw [concat_cons, fault?_append, ih, List.map_cons, List.findSome?_cons]
    cases first.fault? <;> rfl

/-- What may escape from any of several pieces. -/
theorem effect_concat (summaries : List Summary) :
    (concat summaries).effect = ExceptionSet.unionAll (summaries.map (·.effect)) := by
  induction summaries with
  | nil => rfl
  | cons first rest ih =>
    rw [concat_cons, effect_append, ih, List.map_cons, ExceptionSet.unionAll_cons]

/-- The errors of several pieces. -/
theorem problems_concat (summaries : List Summary) :
    (concat summaries).problems = summaries.flatMap (·.problems) := by
  induction summaries with
  | nil => rfl
  | cons first rest ih => rw [concat_cons, problems_append, ih, List.flatMap_cons]

/-- The places of several pieces. -/
theorem sites_concat (summaries : List Summary) :
    (concat summaries).sites = summaries.flatMap (·.sites) := by
  induction summaries with
  | nil => rfl
  | cons first rest ih => rw [concat_cons, sites_append, ih, List.flatMap_cons]

end Summary

namespace Walk

/-- Walks obey the laws of monads, so steps in a row may be grouped at will. -/
instance : LawfulMonad Walk := by
  refine LawfulMonad.mk' Walk (fun walk => ?_) (fun _ _ => rfl) (fun walk first second => ?_)
  · funext trace
    change (walk >>= pure) trace = walk trace
    rw [bind_apply]
    obtain ⟨result, after⟩ := walk trace
    cases result <;> rfl
  · funext trace
    simp only [bind_apply]
    obtain ⟨result, after⟩ := walk trace
    cases result <;> rfl

theorem map_apply {α β : Type} (change : α → β) (walk : Walk α) (trace : Trace) :
    (change <$> walk) trace = match walk trace with
      | (.ok a, after) => (.ok (change a), after)
      | (.error stop, after) => (.error stop, after) :=
  rfl

/-- A walk that stops does so whatever would come after it. -/
theorem fst_bind_of_error {α β : Type} {walk : Walk α} {trace : Trace} {reason : Stop}
    (h : (walk trace).1 = .error reason) (next : α → Walk β) :
    ((walk >>= next) trace).1 = .error reason := by
  rw [bind_apply]
  -- Nothing is known of the trace that a stopped walk leaves behind, and nothing is needed.
  generalize walk trace = outcome at h
  obtain ⟨result, after⟩ := outcome
  subst h
  rfl

/-- A walk comes to a summary: wherever it starts, it stops at the fault of the summary, or else it
returns the effect and adds the errors and the places to the trace. -/
def Follows (walk : Walk ExceptionSet) (summary : Summary) : Prop :=
  ∀ trace, match summary.fault? with
    | some (fault, span) => (walk trace).1 = .error (.malformed fault span)
    | none => walk trace =
        (.ok summary.effect, ⟨trace.diagnostics ++ summary.problems, trace.sites ++ summary.sites⟩)

variable {walk other : Walk ExceptionSet} {first second : Summary}

/-- Stopping comes to any summary with that fault. -/
theorem follows_stop {fault : Fault} {span : Span} (h : first.fault? = some (fault, span)) :
    Follows (stop (.malformed fault span)) first := by
  intro trace
  rw [h]
  rfl

theorem follows_pure (effect : ExceptionSet) : Follows (pure effect) { effect := effect } := by
  intro trace
  simp

/-- A walk that goes wrong stops whatever comes after it. -/
theorem Follows.bind_of_fault {fault : Fault} {span : Span} (h : walk.Follows first)
    (hfault : first.fault? = some (fault, span)) (next : ExceptionSet → Walk ExceptionSet)
    (trace : Trace) : ((walk >>= next) trace).1 = .error (.malformed fault span) := by
  have hwalk := h trace
  rw [hfault] at hwalk
  exact fst_bind_of_error hwalk next

/-- A walk that goes well hands its effect and the longer trace to what comes after it. -/
theorem Follows.bind_of_no_fault (h : walk.Follows first) (hfault : first.fault? = none)
    (next : ExceptionSet → Walk ExceptionSet) (trace : Trace) :
    (walk >>= next) trace =
      next first.effect ⟨trace.diagnostics ++ first.problems, trace.sites ++ first.sites⟩ := by
  have hwalk := h trace
  rw [hfault] at hwalk
  rw [bind_apply, hwalk]

/-- Two walks one after the other come to both summaries. -/
theorem Follows.join (h : walk.Follows first) (hother : other.Follows second) :
    Follows (do let a ← walk; let b ← other; return a ∪ b) (first ++ second) := by
  intro trace
  -- The first fault decides: that of the first walk, or else that of the second.
  cases hfirst : first.fault? with
  | some found =>
    obtain ⟨fault, span⟩ := found
    simp only [Summary.fault?_append, hfirst, Option.some_or]
    exact h.bind_of_fault hfirst _ trace
  | none =>
    rw [Summary.fault?_append, hfirst, Option.none_or, h.bind_of_no_fault hfirst]
    cases hsecond : second.fault? with
    | some found =>
      obtain ⟨fault, span⟩ := found
      exact hother.bind_of_fault hsecond _ _
    | none =>
      rw [hother.bind_of_no_fault hsecond]
      simp

/-- Three walks one after the other come to all three summaries. -/
theorem Follows.join₃ {last : Walk ExceptionSet} {third : Summary} (h : walk.Follows first)
    (hother : other.Follows second) (hlast : last.Follows third) :
    Follows (do let a ← walk; let b ← other; let c ← last; return a ∪ b ∪ c)
      (first ++ second ++ third) := by
  have hassoc : (do let a ← walk; let b ← other; let c ← last; return a ∪ b ∪ c) =
      (do let both ← (do let a ← walk; let b ← other; return a ∪ b)
          let c ← last
          return both ∪ c) := by
    simp only [bind_assoc, pure_bind]
  rw [hassoc]
  exact (h.join hother).join hlast

end Walk

/-- What a bare `throw;` below the descent throws, if `handled` is what it throws above. -/
def handledBelow (descent : Descent) (handled : Option ExceptionSet) : Option ExceptionSet :=
  (descent.handler?.map caught).or handled

/-- What a node throws by itself, apart from its parts. Only some kinds of nodes throw anything;
`handled` is what the innermost handler around the node catches. -/
def source? (signatures : Signature.Source) (handled : Option ExceptionSet) :
    Node → Option ExceptionSet
  | .call (some key) _ _ _ => some (signatures.lookup key).effective
  | .indirectCall _ contract _ _ => some contract.effective
  | .throw _ (some type) _ => some (.single type.name)
  | .rethrow _ => some (handled.getD .universal)
  | _ => none

/-- The place of an effect, if the effect is unbounded. -/
def unboundedAt (effect : ExceptionSet) (site : Site) : List Site :=
  if effect.isUniversal then [site] else []

/-- What is found on entering a node, before any of its parts. -/
def entry : Node → Summary
  | .absent => { fault? := some (.missing, {}) }
  | .misplaced what span => { fault? := some (.unsupported what, span) }
  | .depths => { fault? := some (.tooDeep, {}) }
  | .call none _ spelling span => { fault? := some (.unresolvedCall spelling, span) }
  | _ => {}

namespace Context

variable (context : Context)

/-- What the node itself adds after all of its parts. -/
def own (handled : Option ExceptionSet) : Node → Summary
  | .call (some key) _ _ span =>
    let contract := context.signatures.lookup key
    { effect := contract.effective
      sites := unboundedAt contract.effective (callSite contract key span) }
  | .indirectCall _ contract _ span =>
    { effect := contract.effective
      sites := unboundedAt contract.effective (valueCallSite span) }
  | .throw _ none span => { fault? := some (.untypedThrow, span) }
  | .throw _ (some type) span =>
    { effect := .single type.name
      problems :=
        if type.isPlain then [] else [(Problem.thrown type).report context.function span] }
  | .rethrow span =>
    { effect := handled.getD .universal
      sites := unboundedAt (handled.getD .universal) (rethrowSite handled span) }
  | _ => {}

/-- The errors in the type that a handler catches. -/
def clauseProblems (clause : Clause) : List Diagnostic :=
  match clause.type with
  | none => []
  | some type =>
    (if type.isRef then
      [(Problem.caughtByReference type).report context.function clause.span] else [])
    ++ if type.isQualified then
      [(Problem.caughtQualified type).report context.function clause.span] else []

/-- What is left of the summary of a part when it is seen from the node around it. The handlers of
a `try` are checked right after its body, and the places inside the body count only if the effect
that remains is unbounded. -/
def through (part : Summary) : Descent → Summary
  | .guarded clauses =>
    { fault? := part.fault?
      effect := uncaught part.effect clauses
      problems := part.problems ++ clauses.flatMap context.clauseProblems
      sites := if (uncaught part.effect clauses).isUniversal then part.sites else [] }
  | _ => part

/-- No fault is hidden by the handlers around it. -/
@[simp]
theorem fault?_through (part : Summary) (descent : Descent) :
    (context.through part descent).fault? = part.fault? := by
  cases descent <;> rfl

/-- What a walk through a node comes to. -/
def summary (handled : Option ExceptionSet) (node : Node) : Summary :=
  entry node
    ++ .concat (node.parts.attach.map fun part =>
      context.through (summary (handledBelow part.1.1 handled) part.1.2) part.1.1)
    ++ context.own handled node
termination_by sizeOf node
decreasing_by exact Node.sizeOf_part_lt part.2

/-- A node comes to what is found on entering it, then its parts, then what it adds itself. -/
theorem summary_eq (handled : Option ExceptionSet) (node : Node) :
    context.summary handled node = entry node
      ++ .concat (node.parts.map fun part =>
        context.through (context.summary (handledBelow part.1 handled) part.2) part.1)
      ++ context.own handled node := by
  rw [summary, List.attach_map_val (f := fun part : Descent × Node =>
    context.through (context.summary (handledBelow part.1 handled) part.2) part.1)]

/-- Below plain parts nothing changes. -/
theorem summary_eq_of_inner {handled : Option ExceptionSet} {node : Node}
    (h : node.parts = node.inner.map fun part => (.inside, part)) :
    context.summary handled node = entry node
      ++ .concat (node.inner.map (context.summary handled)) ++ context.own handled node := by
  rw [summary_eq, h, List.map_map]
  rfl

/-- A `try` comes to what gets through its handlers and to what the handlers do. -/
theorem summary_guarded (handled : Option ExceptionSet) (body : Node) (clauses : List Clause)
    (span : Span) :
    context.summary handled (.guarded body clauses span) =
      context.through (context.summary handled body) (.guarded clauses)
        ++ .concat (clauses.map fun clause =>
          context.summary (some (caught clause)) clause.block) := by
  rw [summary_eq, Node.parts, List.map_cons, List.map_map, Summary.concat_cons]
  exact (Summary.append_nil _).trans (Summary.nil_append _)

end Context

/-- The walk through the body of a `try`, up to where its handlers are entered. -/
def Context.guardedBody (context : Context) (body : Walk ExceptionSet) (clauses : List Clause) :
    Walk ExceptionSet := do
  let before ← Walk.trace
  let effect ← body
  clauses.forM context.checkClause
  unless (uncaught effect clauses).isUniversal do
    Walk.modify fun trace => { trace with sites := before.sites }
  return uncaught effect clauses

/-- A `try` is its body up to the handlers, and then the handlers. -/
theorem infer_guarded (context : Context) (body : Node) (clauses : List Clause) (span : Span)
    (handled : Option ExceptionSet) :
    infer context (.guarded body clauses span) handled = (do
      let remaining ← context.guardedBody (infer context body handled) clauses
      let handlers ← inferHandlers context clauses
      return remaining ∪ handlers) := by
  rw [infer, Context.guardedBody]
  simp only [bind_assoc]
  refine bind_congr fun before => bind_congr fun effect => bind_congr fun _ => ?_
  cases (uncaught effect clauses).isUniversal <;> simp

section Following

/-- Noting the place of an effect when it is unbounded, and returning the effect. -/
theorem addSite_follows (effect : ExceptionSet) (site : Site) :
    Walk.Follows (do if effect.isUniversal then Walk.addSite site
                     return effect)
      { effect := effect, sites := unboundedAt effect site } := by
  intro trace
  cases huniversal : effect.isUniversal <;>
    simp [unboundedAt, huniversal, Walk.map_apply, Walk.addSite, Walk.modify]

variable (context : Context)

/-- A call comes to what it adds by itself. -/
theorem called_follows (key : FunctionKey) (args : List Node) (spelling : Option String)
    (span : Span) (handled : Option ExceptionSet) :
    (context.called key span).Follows (context.own handled (.call (some key) args spelling span)) :=
  addSite_follows _ _

/-- A call through a function value comes to what it adds by itself. -/
theorem calledThrough_follows (callee : Node) (contract : Contract) (args : List Node)
    (span : Span) (handled : Option ExceptionSet) :
    (calledThrough contract span).Follows
      (context.own handled (.indirectCall callee contract args span)) :=
  addSite_follows _ _

/-- A bare `throw;` comes to what it adds by itself. -/
theorem rethrown_follows (span : Span) (handled : Option ExceptionSet) :
    (rethrown handled span).Follows (context.own handled (.rethrow span)) :=
  addSite_follows _ _

/-- A part that may be left out comes to what is present of it. -/
theorem optional_follows {node : Node} {handled : Option ExceptionSet}
    (h : ∀ part ∈ node.present,
      (infer context part handled).Follows (context.summary handled part)) :
    (optional node (infer context node handled)).Follows
      (.concat (node.present.map (context.summary handled))) := by
  by_cases habsent : node = .absent
  · subst habsent
    exact Walk.follows_pure ∅
  · have hpresent := Node.present_of_ne_absent habsent
    have hoptional : optional node (infer context node handled) = infer context node handled := by
      cases node with
      | absent => exact absurd rfl habsent
      | _ => rfl
    rw [hpresent] at h ⊢
    rw [hoptional]
    simpa using h node List.mem_cons_self

/-- Several nodes come to what is present among them. -/
theorem inferAll_follows {nodes : List Node} {handled : Option ExceptionSet}
    (h : ∀ part ∈ nodes.flatMap Node.present,
      (infer context part handled).Follows (context.summary handled part)) :
    (inferAll context nodes handled).Follows
      (.concat ((nodes.flatMap Node.present).map (context.summary handled))) := by
  induction nodes with
  | nil =>
    rw [inferAll]
    exact Walk.follows_pure ∅
  | cons node rest ih =>
    rw [List.flatMap_cons] at h ⊢
    rw [inferAll, List.map_append, Summary.concat_append]
    have hnode := optional_follows context fun part hpart => h part (List.mem_append_left _ hpart)
    have hrest := ih fun part hpart => h part (List.mem_append_right _ hpart)
    exact hnode.join hrest

/-- Several handlers come to what their blocks come to, each with what it catches. -/
theorem inferHandlers_follows {clauses : List Clause}
    (h : ∀ clause ∈ clauses, (infer context clause.block (some (caught clause))).Follows
      (context.summary (some (caught clause)) clause.block)) :
    (inferHandlers context clauses).Follows
      (.concat (clauses.map fun clause =>
        context.summary (some (caught clause)) clause.block)) := by
  induction clauses with
  | nil =>
    rw [inferHandlers]
    exact Walk.follows_pure ∅
  | cons clause rest ih =>
    rw [inferHandlers, List.map_cons, Summary.concat_cons]
    have hclause : inferHandler context clause =
        infer context clause.block (some (caught clause)) := by
      cases clause
      rw [inferHandler]
      rfl
    rw [hclause]
    exact (h clause List.mem_cons_self).join (ih fun other hother =>
      h other (List.mem_cons_of_mem clause hother))

variable {context : Context} (hcollecting : context.collecting = true)
include hcollecting

/-- A recoverable error is added to the trace. -/
theorem report_apply (problem : Problem) (span : Span) (trace : Trace) :
    context.report problem span trace =
      (.ok (), ⟨trace.diagnostics ++ [problem.report context.function span], trace.sites⟩) := by
  rw [Context.report, hcollecting]
  rfl

/-- Checking a handler adds its errors to the trace. -/
theorem checkClause_apply (clause : Clause) (trace : Trace) :
    context.checkClause clause trace =
      (.ok (), ⟨trace.diagnostics ++ context.clauseProblems clause, trace.sites⟩) := by
  unfold Context.checkClause Context.clauseProblems
  cases clause.type with
  | none => simp
  | some type =>
    cases href : type.isRef <;> cases hqualified : type.isQualified <;>
      simp [href, hqualified, Walk.bind_apply, report_apply hcollecting]

/-- Checking handlers adds the errors of all of them to the trace. -/
theorem forM_checkClause_apply (clauses : List Clause) (trace : Trace) :
    clauses.forM context.checkClause trace =
      (.ok (), ⟨trace.diagnostics ++ clauses.flatMap context.clauseProblems, trace.sites⟩) := by
  induction clauses generalizing trace with
  | nil => simp
  | cons clause rest ih =>
    change (context.checkClause clause >>= fun _ => rest.forM context.checkClause) trace = _
    rw [Walk.bind_apply, checkClause_apply hcollecting]
    simp [ih]

/-- A throw comes to what it adds by itself. -/
theorem thrown_follows (value : Node) (type : Option ValueType) (span : Span)
    (handled : Option ExceptionSet) :
    (context.thrown type span).Follows (context.own handled (.throw value type span)) := by
  cases type with
  | none => exact Walk.follows_stop rfl
  | some type =>
    intro trace
    cases hplain : type.isPlain <;>
      simp [Context.thrown, Context.own, hplain, Walk.map_apply, report_apply hcollecting]

/-- The body of a `try` with its handlers comes to what gets through the handlers. -/
theorem guardedBody_follows {body : Walk ExceptionSet} {part : Summary} (h : body.Follows part)
    (clauses : List Clause) :
    (context.guardedBody body clauses).Follows (context.through part (.guarded clauses)) := by
  intro trace
  rw [Context.fault?_through, Context.guardedBody, Walk.bind_apply]
  cases hfault : part.fault? with
  | some found =>
    obtain ⟨fault, span⟩ := found
    exact h.bind_of_fault hfault _ trace
  | none =>
    -- The places found inside the body are forgotten unless the remaining effect is unbounded.
    simp only [Walk.trace]
    rw [h.bind_of_no_fault hfault, Walk.bind_apply, forM_checkClause_apply hcollecting]
    cases huniversal : (uncaught part.effect clauses).isUniversal <;>
      simp [Context.through, huniversal, Walk.map_apply, Walk.modify]

/-- A walk through a node comes to the summary of the node. -/
theorem infer_follows (handled : Option ExceptionSet) (node : Node) :
    (infer context node handled).Follows (context.summary handled node) := by
  refine Node.parts_induction (motive := fun node => ∀ handled,
    (infer context node handled).Follows (context.summary handled node))
    (fun node ih handled => ?_) node handled
  -- For any node but a `try`, the parts are walked through with the same `handled`.
  have inner : node.parts = node.inner.map (fun part => (.inside, part)) →
      ∀ part ∈ node.inner, (infer context part handled).Follows (context.summary handled part) := by
    intro hparts part hpart
    refine ih (.inside, part) ?_ handled
    rw [hparts]
    exact List.mem_map.mpr ⟨part, hpart, rfl⟩
  cases node with
  | absent | misplaced | depths =>
    rw [infer]
    exact Walk.follows_stop (by rw [Context.summary_eq]; rfl)
  | literal | «variable» | leave | next =>
    rw [infer, Context.summary_eq_of_inner context rfl]
    exact Walk.follows_pure ∅
  | call callee args spelling span =>
    cases callee with
    | none =>
      rw [infer]
      exact Walk.follows_stop (by rw [Context.summary_eq]; rfl)
    | some key =>
      rw [infer, Context.summary_eq_of_inner context rfl]
      have hargs := inferAll_follows context (inner rfl)
      have hcall := called_follows context key args spelling span handled
      simpa [entry, Node.inner] using hargs.join hcall
  | indirectCall callee contract args span =>
    rw [infer, Context.summary_eq_of_inner context rfl]
    have hcallee := inner rfl callee List.mem_cons_self
    have hargs := inferAll_follows context fun part hpart =>
      inner rfl part (List.mem_cons_of_mem _ hpart)
    have hcall := calledThrough_follows context callee contract args span handled
    simpa [entry, Node.inner] using hcallee.join₃ hargs hcall
  | construct | block =>
    rw [infer, Context.summary_eq_of_inner context rfl]
    simpa [entry, Context.own, Node.inner] using inferAll_follows context (inner rfl)
  | unary _ operand _ | eval operand _ =>
    rw [infer, Context.summary_eq_of_inner context rfl]
    simpa [entry, Context.own, Node.inner] using inner rfl operand List.mem_cons_self
  | binary op left right span =>
    rw [infer, Context.summary_eq_of_inner context rfl]
    have hleft := inner rfl left List.mem_cons_self
    have hright := inner rfl right (List.mem_cons_of_mem _ List.mem_cons_self)
    simpa [entry, Context.own, Node.inner] using hleft.join hright
  | bind | ret =>
    rw [infer, Context.summary_eq_of_inner context rfl]
    simpa [entry, Context.own, Node.inner] using optional_follows context (inner rfl)
  | throw value type span =>
    rw [infer, Context.summary_eq_of_inner context rfl]
    have hvalue := inner rfl value List.mem_cons_self
    have hthrown := thrown_follows hcollecting value type span handled
    simpa [entry, Node.inner] using hvalue.join hthrown
  | rethrow span =>
    rw [infer, Context.summary_eq_of_inner context rfl]
    simpa [entry, Node.inner] using rethrown_follows context span handled
  | branch condition whenTrue whenFalse span =>
    rw [infer, Context.summary_eq_of_inner context rfl]
    have part : ∀ node ∈ [condition, whenTrue, whenFalse], _ := fun node hnode =>
      optional_follows context fun part hpart =>
        inner rfl part (List.mem_flatMap.mpr ⟨node, hnode, hpart⟩)
    -- A choice with a part left out comes to the others.
    have h := (part condition (by simp)).join₃ (part whenTrue (by simp)) (part whenFalse (by simp))
    simpa [entry, Context.own, Node.inner, Summary.concat_append, Summary.append_assoc] using h
  | loop body condition init step span =>
    rw [infer, Context.summary_eq_of_inner context rfl]
    have part : ∀ node ∈ [init, condition, body, step], _ := fun node hnode =>
      optional_follows context fun part hpart =>
        inner rfl part (List.mem_flatMap.mpr ⟨node, hnode, hpart⟩)
    have h := ((part init (by simp)).join₃ (part condition (by simp)) (part body (by simp))).join
      (part step (by simp))
    simpa [entry, Context.own, Node.inner, Summary.concat_append, Summary.append_assoc] using h
  | guarded body clauses span =>
    -- Only here the parts are entered in different ways, each handler with what it catches.
    have hbody := ih (.guarded clauses, body) List.mem_cons_self handled
    have hhandlers := inferHandlers_follows context fun clause (hclause : clause ∈ clauses) =>
      ih (.handling clause, clause.block)
        (List.mem_cons_of_mem _ (List.mem_map.mpr ⟨clause, hclause, rfl⟩)) _
    rw [infer_guarded, Context.summary_guarded]
    exact (guardedBody_follows hcollecting hbody clauses).join hhandlers

/-- A walk returns exactly if the summary has no fault, and then it returns the effect of the
summary and adds its errors and places to the trace. -/
theorem infer_eq_ok_iff {handled : Option ExceptionSet} {node : Node} {trace after : Trace}
    {effect : ExceptionSet} :
    infer context node handled trace = (.ok effect, after) ↔
      (context.summary handled node).fault? = none ∧
        effect = (context.summary handled node).effect ∧
        after = ⟨trace.diagnostics ++ (context.summary handled node).problems,
          trace.sites ++ (context.summary handled node).sites⟩ := by
  have hfollows := infer_follows hcollecting handled node trace
  cases hfault : (context.summary handled node).fault? with
  | some found =>
    rw [hfault] at hfollows
    refine iff_of_false (fun h => ?_) nofun
    rw [h] at hfollows
    cases hfollows
  | none =>
    rw [hfault] at hfollows
    rw [hfollows, Prod.mk.injEq, Except.ok.injEq]
    simp [eq_comm]

/-- A walk that returns an effect returns that of the summary, which has no fault then. -/
theorem eq_summary_of_infer_eq_ok {handled : Option ExceptionSet} {node : Node}
    {trace after : Trace} {effect : ExceptionSet}
    (h : infer context node handled trace = (.ok effect, after)) :
    (context.summary handled node).fault? = none ∧
      effect = (context.summary handled node).effect := by
  obtain ⟨hfault, heffect, _⟩ := (infer_eq_ok_iff hcollecting).mp h
  exact ⟨hfault, heffect⟩

end Following

/-- The fault of a node is found on entering it, or else it is the first one in its parts, or else
it is in what the node does after them. -/
theorem Context.fault?_summary (context : Context) (handled : Option ExceptionSet) (node : Node) :
    (context.summary handled node).fault? =
      ((entry node).fault?.or ((node.parts.map fun part =>
        (context.summary (handledBelow part.1 handled) part.2).fault?).findSome? id)).or
        (context.own handled node).fault? := by
  rw [summary_eq, Summary.fault?_append, Summary.fault?_append, Summary.fault?_concat, List.map_map]
  simp only [Function.comp_def, fault?_through]

/-- What escapes from a node is what it throws itself, and what gets through from its parts. -/
theorem Context.effect_summary (context : Context) (handled : Option ExceptionSet) (node : Node) :
    (context.summary handled node).effect =
      (source? context.signatures handled node).getD ∅ ∪ .unionAll (node.parts.map fun part =>
        uncaught (context.summary (handledBelow part.1 handled) part.2).effect part.1.guards) := by
  -- Entering a node may find a fault, but throws nothing.
  have hentry : (entry node).effect = ∅ := by
    cases node with
    | call callee args spelling span => cases callee <;> rfl
    | _ => rfl
  have hown : (context.own handled node).effect =
      (source? context.signatures handled node).getD ∅ := by
    cases node with
    | call callee args spelling span => cases callee <;> rfl
    | throw value type span => cases type <;> rfl
    | _ => rfl
  have hthrough : ∀ (part : Summary) (descent : Descent),
      (context.through part descent).effect = uncaught part.effect descent.guards := by
    intro part descent
    cases descent <;> rfl
  rw [summary_eq, Summary.effect_append, Summary.effect_append, Summary.effect_concat, hentry, hown,
    List.map_map]
  ext name
  simp [hthrough, or_comm]

end Throws.Effect
