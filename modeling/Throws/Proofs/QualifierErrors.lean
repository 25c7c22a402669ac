import Throws.Proofs.DefinitionReport

/-!
# Qualifiers are reported and otherwise ignored

Only plain values may be thrown or caught. A type that is qualified or a reference is reported where
it stands, and the walk goes on as if it were written without its qualifiers. So one slip in a type
causes neither a wrong effect nor a second error somewhere else.

* `Node.stripped` removes the qualifiers from every type that is thrown or caught, and
  `summary_stripped` says that this changes nothing but the errors, of which none are left.
* `Node.typeUses` lists the types that are thrown or caught, in the order in which a walk judges
  them, and `problems_summary_eq` says that the errors are those of these types, one by one.

What makes the first statement more than a look at one node is that handlers decide what is left of
an effect, what a bare `throw;` throws and which places are forgotten. All of this goes through
`caught`, which knows names only.
-/

namespace Throws.Body

/-! ## Fragments without qualifiers -/

mutual

/-- The same node without qualifiers on any type that is thrown or caught. -/
def Node.stripped : Node → Node
  | .call callee args spelling span => .call callee (strippedAll args) spelling span
  | .indirectCall callee contract args span =>
    .indirectCall callee.stripped contract (strippedAll args) span
  | .construct type args span => .construct type (strippedAll args) span
  | .unary op operand span => .unary op operand.stripped span
  | .binary op left right span => .binary op left.stripped right.stripped span
  | .block statements span => .block (strippedAll statements) span
  | .eval expr span => .eval expr.stripped span
  | .bind name value span => .bind name value.stripped span
  | .ret value span => .ret value.stripped span
  | .throw value type span => .throw value.stripped (type.map ValueType.unqualified) span
  | .branch condition whenTrue whenFalse span =>
    .branch condition.stripped whenTrue.stripped whenFalse.stripped span
  | .loop body condition init step span =>
    .loop body.stripped condition.stripped init.stripped step.stripped span
  | .guarded body clauses span => .guarded body.stripped (strippedClauses clauses) span
  | node => node

/-- Each of several nodes without qualifiers. -/
def strippedAll : List Node → List Node
  | [] => []
  | node :: rest => node.stripped :: strippedAll rest

/-- Each of several handlers without qualifiers. -/
def strippedClauses : List Clause → List Clause
  | [] => []
  | clause :: rest => clause.stripped :: strippedClauses rest

/-- A handler without qualifiers on the type that it catches. -/
def Clause.stripped : Clause → Clause
  | .mk type binder block span =>
    .mk (type.map ValueType.unqualified) binder block.stripped span

end

/-- The descent into a node without qualifiers. -/
def Descent.stripped : Descent → Descent
  | .inside => .inside
  | .guarded clauses => .guarded (clauses.map Clause.stripped)
  | .handling clause => .handling clause.stripped

theorem strippedAll_eq_map (nodes : List Node) : strippedAll nodes = nodes.map Node.stripped := by
  induction nodes with
  | nil => rfl
  | cons node rest ih => rw [strippedAll, ih, List.map_cons]

theorem strippedClauses_eq_map (clauses : List Clause) :
    strippedClauses clauses = clauses.map Clause.stripped := by
  induction clauses with
  | nil => rfl
  | cons clause rest ih => rw [strippedClauses, ih, List.map_cons]

theorem Clause.block_stripped (clause : Clause) :
    clause.stripped.block = clause.block.stripped := by
  cases clause
  rfl

namespace Node

theorem present_stripped (node : Node) : node.stripped.present = node.present.map stripped := by
  cases node <;> rfl

theorem flatMap_present_stripped (nodes : List Node) :
    (nodes.map stripped).flatMap present = (nodes.flatMap present).map stripped := by
  rw [List.flatMap_map, List.map_flatMap]
  simp only [present_stripped]

theorem inner_stripped (node : Node) : node.stripped.inner = node.inner.map stripped := by
  cases node with
  | call _ nodes _ _ | construct _ nodes _ | block nodes _ =>
    rw [stripped, strippedAll_eq_map]
    exact flatMap_present_stripped nodes
  | indirectCall callee contract args span =>
    rw [stripped, strippedAll_eq_map]
    exact congrArg (callee.stripped :: ·) (flatMap_present_stripped args)
  | bind _ value _ | ret value _ => exact present_stripped value
  | branch condition whenTrue whenFalse span =>
    exact flatMap_present_stripped [condition, whenTrue, whenFalse]
  | loop body condition init step span =>
    exact flatMap_present_stripped [init, condition, body, step]
  | _ => rfl

/-- The parts of a stripped node are the stripped parts, in the same order. -/
theorem parts_stripped (node : Node) :
    node.stripped.parts = node.parts.map fun part => (part.1.stripped, part.2.stripped) := by
  -- Handlers stand in the descents of a `try` only. All other parts are just inside.
  by_cases hguarded : ∃ body clauses span, node = .guarded body clauses span
  · obtain ⟨body, clauses, span, rfl⟩ := hguarded
    rw [stripped, strippedClauses_eq_map]
    simp only [parts, List.map_cons, List.map_map, Function.comp_def, Clause.block_stripped,
      Descent.stripped]
  · have hplain : ∀ body clauses span, node ≠ .guarded body clauses span :=
      fun body clauses span heq => hguarded ⟨body, clauses, span, heq⟩
    have hplain' : ∀ body clauses span, node.stripped ≠ .guarded body clauses span := by
      intro body clauses span heq
      cases node with
      | guarded body clauses span => exact hplain body clauses span rfl
      | _ => cases heq
    rw [parts_eq_inner hplain, parts_eq_inner hplain', inner_stripped, List.map_map, List.map_map]
    rfl

end Node

/-! ## Types that are thrown or caught -/

/-- A type at a throw or at a handler. -/
inductive TypeUse where
  /-- The type of a thrown value. -/
  | thrown (type : ValueType) (span : Span)
  /-- The type that a handler names. -/
  | caught (type : ValueType) (span : Span)

/-- Where the type is used. -/
def TypeUse.span : TypeUse → Span
  | .thrown _ span | .caught _ span => span

/-- The type that a handler names, if it names one. -/
def Clause.typeUse? (clause : Clause) : Option TypeUse :=
  clause.type.map (TypeUse.caught · clause.span)

namespace Node

/-- The type of the value that the node throws, if it is a throw and has one. -/
def thrownUse? : Node → Option TypeUse
  | .throw _ type span => type.map (TypeUse.thrown · span)
  | _ => none

/-- The handlers of the node, if it is a `try`. -/
def clauses : Node → List Clause
  | .guarded _ clauses _ => clauses
  | _ => []

/-- The types that the node itself catches or throws, apart from its parts. -/
def ownTypeUses (node : Node) : List TypeUse :=
  node.clauses.filterMap Clause.typeUse? ++ node.thrownUse?.toList

/-- The types that are thrown or caught inside a fragment, in the order in which a walk judges them:
what is inside of a part, then the handlers that guard the part, and a throw after its operand. -/
def typeUses (node : Node) : List TypeUse :=
  (node.parts.attach.flatMap fun part =>
    typeUses part.1.2 ++ part.1.1.guards.filterMap Clause.typeUse?) ++ node.thrownUse?.toList
termination_by sizeOf node
decreasing_by exact Node.sizeOf_part_lt part.2

theorem typeUses_eq (node : Node) :
    node.typeUses = (node.parts.flatMap fun part =>
      part.2.typeUses ++ part.1.guards.filterMap Clause.typeUse?) ++ node.thrownUse?.toList := by
  rw [typeUses, ← List.flatMap_map Subtype.val fun part : Descent × Node =>
    part.2.typeUses ++ part.1.guards.filterMap Clause.typeUse?, List.attach_map_subtype_val]

/-- What guards the parts of a node are its own handlers. -/
theorem flatMap_guards_parts (node : Node) :
    (node.parts.flatMap fun part => part.1.guards) = node.clauses := by
  have hinside : ∀ nodes : List Node,
      ((nodes.map fun part => (Descent.inside, part)).flatMap fun part => part.1.guards) = [] := by
    intro nodes
    simp [List.flatMap_map, Descent.guards]
  cases node with
  | guarded body clauses span =>
    -- Of the parts of a `try`, only its body is guarded.
    simp [parts, List.flatMap_map, Descent.guards, Node.clauses]
  | _ => exact hinside _

open scoped List in
/-- Every throw and every handler inside a fragment is judged exactly once. -/
theorem typeUses_perm (node : Node) :
    node.typeUses.Perm (node.occurrences.flatMap (·.node.ownTypeUses)) := by
  refine Node.parts_induction (motive := fun node =>
    node.typeUses.Perm (node.occurrences.flatMap (·.node.ownTypeUses))) (fun node ih => ?_) node
  have hguards : (node.parts.flatMap fun part => part.1.guards.filterMap Clause.typeUse?) =
      node.clauses.filterMap Clause.typeUse? := by
    rw [← flatMap_guards_parts, List.filterMap_flatMap]
  have hbelow : (node.parts.flatMap (·.2.typeUses)).Perm
      (node.parts.flatMap fun part => part.2.occurrences.flatMap (·.node.ownTypeUses)) :=
    List.Perm.flatMap .rfl ih
  have hlisted : node.occurrences.flatMap (·.node.ownTypeUses) = node.ownTypeUses ++
      node.parts.flatMap fun part => part.2.occurrences.flatMap (·.node.ownTypeUses) := by
    rw [occurrences_eq, List.flatMap_cons, List.flatMap_assoc]
    simp only [List.flatMap_map]
    rfl
  -- The handlers of the node move from behind its parts to the node itself.
  calc node.typeUses
      = (node.parts.flatMap fun part =>
          part.2.typeUses ++ part.1.guards.filterMap Clause.typeUse?)
          ++ node.thrownUse?.toList := typeUses_eq node
    _ ~ node.parts.flatMap (·.2.typeUses) ++ node.clauses.filterMap Clause.typeUse?
          ++ node.thrownUse?.toList := by
        rw [← hguards]
        exact ((List.flatMap_append_perm _ _ _).symm).append_right _
    _ = node.parts.flatMap (·.2.typeUses) ++ node.ownTypeUses := List.append_assoc _ _ _
    _ ~ node.ownTypeUses ++ node.parts.flatMap fun part =>
          part.2.occurrences.flatMap (·.node.ownTypeUses) :=
        List.perm_append_comm.trans (hbelow.append_left _)
    _ = node.occurrences.flatMap (·.node.ownTypeUses) := hlisted.symm

end Node

end Throws.Body

namespace Throws.Effect

open Throws.Body

/-! ## Errors -/

/-- What is wrong with the use of a type. Any qualifier is wrong at a throw. A handler that catches
by reference is one thing, and a `const` or `volatile` in its type is another. -/
def qualifierProblems : TypeUse → List Problem
  | .thrown type _ =>
    if type.isConst || type.isVolatile || type.isRef then [.thrown type] else []
  | .caught type _ =>
    (if type.isRef then [.caughtByReference type] else [])
      ++ if type.isConst || type.isVolatile then [.caughtQualified type] else []

/-- The reports of what is wrong with the use of a type, in the body of `function`. -/
def qualifierErrors (function : Option FunctionKey) (use : TypeUse) : List Diagnostic :=
  (qualifierProblems use).map (·.report function use.span)

section Kinds

variable (function : Option FunctionKey)

/-- A throw is reported once, whichever qualifiers its type has. -/
theorem kinds_qualifierErrors_thrown (type : ValueType) (span : Span) :
    (qualifierErrors function (.thrown type span)).map (·.kind) =
      if type.isConst || type.isVolatile || type.isRef then [.invalidThrowType] else [] := by
  simp only [qualifierErrors, qualifierProblems]
  split <;> rfl

/-- A handler is reported for a reference, and then for a `const` or `volatile`. -/
theorem kinds_qualifierErrors_caught (type : ValueType) (span : Span) :
    (qualifierErrors function (.caught type span)).map (·.kind) =
      (if type.isRef then [.invalidCatchByReference] else [])
        ++ if type.isConst || type.isVolatile then [.invalidThrowType] else [] := by
  simp only [qualifierErrors, qualifierProblems]
  split <;> split <;> rfl

variable {function}

/-- An error points to the use of the type that it is about. -/
theorem place_of_mem_qualifierErrors {use : TypeUse} {error : Diagnostic}
    (h : error ∈ qualifierErrors function use) :
    error.span = use.span ∧ error.function = function := by
  obtain ⟨problem, _, rfl⟩ := List.mem_map.mp h
  exact ⟨rfl, rfl⟩

end Kinds

namespace Context

variable (context : Context)

/-- The errors in a handler are those of the type that it names. -/
theorem clauseProblems_eq (clause : Clause) :
    context.clauseProblems clause =
      clause.typeUse?.toList.flatMap (qualifierErrors context.function) := by
  unfold clauseProblems Clause.typeUse?
  cases clause.type with
  | none => rfl
  | some type =>
    -- A reference is reported in front of a qualifier in all eight cases.
    obtain ⟨name, isConst, isVolatile, isRef⟩ := type
    cases isConst <;> cases isVolatile <;> cases isRef <;> rfl

/-- The errors of a node itself are those of the type that it throws. -/
theorem problems_own (handled : Option ExceptionSet) (node : Node) :
    (context.own handled node).problems =
      node.thrownUse?.toList.flatMap (qualifierErrors context.function) := by
  cases node with
  | call callee args spelling span => cases callee <;> rfl
  | throw value type span =>
    cases type with
    | none => rfl
    | some type =>
      obtain ⟨name, isConst, isVolatile, isRef⟩ := type
      cases isConst <;> cases isVolatile <;> cases isRef <;> rfl
  | _ => rfl

/-- The errors of a walk are those of the types that are thrown or caught, in order. -/
theorem problems_summary_eq (handled : Option ExceptionSet) (node : Node) :
    (context.summary handled node).problems =
      node.typeUses.flatMap (qualifierErrors context.function) := by
  refine Node.parts_induction (motive := fun node => ∀ handled,
    (context.summary handled node).problems =
      node.typeUses.flatMap (qualifierErrors context.function)) (fun node ih handled => ?_)
    node handled
  -- What is inside of a part comes first, and then the handlers that guard it.
  have hpart : ∀ part ∈ node.parts,
      (context.summary (handledBelow part.1 handled) part.2).problems
          ++ part.1.guards.flatMap context.clauseProblems =
        (part.2.typeUses ++ part.1.guards.filterMap Clause.typeUse?).flatMap
          (qualifierErrors context.function) := by
    intro part hmem
    rw [ih part hmem, List.flatMap_append, List.filterMap_eq_flatMap_toList, List.flatMap_assoc,
      List.flatMap_congr fun clause _ => context.clauseProblems_eq clause]
  rw [problems_summary, Node.typeUses_eq, List.flatMap_append, problems_own, List.flatMap_assoc,
    List.flatMap_congr hpart]

end Context

/-! ## Nothing else depends on qualifiers -/

/-- The same outcome without any error. -/
def Summary.silent (summary : Summary) : Summary := { summary with problems := [] }

@[simp]
theorem Summary.silent_append (first second : Summary) :
    (first ++ second).silent = first.silent ++ second.silent := rfl

@[simp]
theorem Summary.silent_concat (summaries : List Summary) :
    (concat summaries).silent = concat (summaries.map silent) := by
  induction summaries with
  | nil => rfl
  | cons first rest ih => rw [concat_cons, silent_append, ih, List.map_cons, concat_cons]

theorem caught_stripped (clause : Clause) : caught clause.stripped = caught clause := by
  obtain ⟨type, binder, block, span⟩ := clause
  cases type <;> rfl

theorem handledBelow_stripped (descent : Descent) (handled : Option ExceptionSet) :
    handledBelow descent.stripped handled = handledBelow descent handled := by
  cases descent with
  | inside | guarded => rfl
  | handling clause => exact congrArg (fun set => some set) (caught_stripped clause)

theorem entry_stripped (node : Node) : entry node.stripped = (entry node).silent := by
  cases node with
  | call callee args spelling span => cases callee <;> rfl
  | _ => rfl

namespace Context

variable (context : Context)

theorem clauseProblems_stripped (clause : Clause) :
    context.clauseProblems clause.stripped = [] := by
  obtain ⟨type, binder, block, span⟩ := clause
  cases type <;> rfl

theorem own_stripped (handled : Option ExceptionSet) (node : Node) :
    context.own handled node.stripped = (context.own handled node).silent := by
  cases node with
  | call callee args spelling span => cases callee <;> rfl
  | throw value type span => cases type <;> rfl
  | _ => rfl

/-- Stripped handlers let the same through, and add no errors. -/
theorem through_stripped (part : Summary) (descent : Descent) :
    context.through part.silent descent.stripped = (context.through part descent).silent := by
  cases descent with
  | inside | handling => rfl
  | guarded clauses =>
    -- What is let through is decided by `caught` alone, which stripping leaves as it is.
    have hproblems : (clauses.map Clause.stripped).flatMap context.clauseProblems = [] := by
      simp [List.flatMap_map, clauseProblems_stripped]
    simp only [Descent.stripped, through, Summary.silent, uncaught_map caught_stripped, hproblems,
      List.append_nil]

/-- Without qualifiers a node comes to the same, but for the errors. -/
theorem summary_stripped (handled : Option ExceptionSet) (node : Node) :
    context.summary handled node.stripped = (context.summary handled node).silent := by
  refine Node.parts_induction (motive := fun node => ∀ handled,
    context.summary handled node.stripped = (context.summary handled node).silent)
    (fun node ih handled => ?_) node handled
  have hparts : (node.stripped.parts.map fun part =>
        context.through (context.summary (handledBelow part.1 handled) part.2) part.1) =
      (node.parts.map fun part =>
        context.through (context.summary (handledBelow part.1 handled) part.2) part.1).map
          Summary.silent := by
    rw [Node.parts_stripped, List.map_map, List.map_map]
    refine List.map_congr_left fun part hpart => ?_
    -- The handled set below is the same, so the induction applies to the part as it stands.
    simp only [Function.comp_apply, handledBelow_stripped, ih part hpart, through_stripped]
  rw [summary_eq, summary_eq, hparts, entry_stripped, own_stripped, Summary.silent_append,
    Summary.silent_append, Summary.silent_concat]

end Context

/-- Errors in types have no consequences. Whenever a walk returns, it returns the same effect and
leaves the same places for the fragment without any qualifiers at throws and handlers, and that walk
adds no error. What the walk through the fragment as it stands adds is, in the order of the walk,
what is wrong with each type that is thrown or caught, and nothing else. Every throw and every
handler in the fragment counts exactly once.

At a throw that is one `InvalidThrowType` for any qualifiers. At a handler it is one
`InvalidCatchByReference` for a reference, followed by one `InvalidThrowType` for a `const` or
`volatile`. Each of them points to the throw or the handler and names the function. -/
theorem qualifiers_are_only_reported {signatures : Signature.Source}
    {function : Option FunctionKey} {node : Node} {handled : Option ExceptionSet}
    {trace after : Trace} {effect : ExceptionSet}
    (h : infer { signatures := signatures, function := function } node handled trace =
      (.ok effect, after)) :
    infer { signatures := signatures, function := function } node.stripped handled trace =
        (.ok effect, { diagnostics := trace.diagnostics, sites := after.sites }) ∧
      after.diagnostics =
        trace.diagnostics ++ node.typeUses.flatMap (qualifierErrors function) ∧
      node.typeUses.Perm (node.occurrences.flatMap (·.node.ownTypeUses)) ∧
      (∀ type span, (qualifierErrors function (.thrown type span)).map (·.kind) =
        if type.isConst || type.isVolatile || type.isRef then [.invalidThrowType] else []) ∧
      (∀ type span, (qualifierErrors function (.caught type span)).map (·.kind) =
        (if type.isRef then [.invalidCatchByReference] else [])
          ++ if type.isConst || type.isVolatile then [.invalidThrowType] else []) ∧
      ∀ use, ∀ error ∈ qualifierErrors function use,
        error.span = use.span ∧ error.function = function := by
  let context : Context := { signatures := signatures, function := function }
  have hcollecting : context.collecting = true := rfl
  -- A walk that returns has done what its summary says, and summaries can be compared.
  obtain ⟨hfault, rfl, rfl⟩ := (infer_eq_ok_iff hcollecting).mp h
  have hstripped := context.summary_stripped handled node
  refine ⟨(infer_eq_ok_iff hcollecting).mpr ⟨?_, ?_, ?_⟩, ?_, node.typeUses_perm,
    kinds_qualifierErrors_thrown function, kinds_qualifierErrors_caught function,
    fun use error => place_of_mem_qualifierErrors⟩
  · rw [hstripped]
    exact hfault
  · rw [hstripped]
    rfl
  · rw [hstripped]
    exact congrArg (Trace.mk · _) (List.append_nil _).symm
  · rw [context.problems_summary_eq handled node]

/-- Qualifiers at a throw and at two nested handlers, of which the inner one throws again what it
caught: `try { try { throw const A; } catch (A&) { throw; } } catch (const B&) { f(); }`. -/
def qualifiedHandlers : Node :=
  .guarded
    (.guarded (.throw (.literal (.int 1) {}) (some { name := "A", isConst := true }) {})
      [.mk (some { name := "A", isRef := true }) none (.block [.rethrow {}] {}) {}] {})
    [.mk (some { name := "B", isConst := true, isRef := true }) none
      (.block [.eval (.call (some { name := "f" }) [] none {}) {}] {}) {}] {}

/-- In `qualifiedHandlers` the throw and the inner handler are reported once each and the outer
handler twice. The effect and the place of the call are those of the same fragment without
qualifiers, for which nothing is reported. -/
theorem reported_qualifiedHandlers :
    let place := callSite .undeclared { name := "f" } {}
    ∃ errors, infer { signatures := .empty } qualifiedHandlers none {} =
        (.ok .universal, ⟨errors, [place]⟩) ∧
      errors = qualifiedHandlers.typeUses.flatMap (qualifierErrors none) ∧
      errors.map (·.kind) = [.invalidThrowType, .invalidCatchByReference,
        .invalidCatchByReference, .invalidThrowType] ∧
      infer { signatures := .empty } qualifiedHandlers.stripped none {} =
        (.ok .universal, ⟨[], [place]⟩) := by
  intro place
  obtain ⟨errors, h, hkinds⟩ : ∃ errors,
      infer { signatures := .empty } qualifiedHandlers none {} =
          (.ok .universal, ⟨errors, [place]⟩) ∧
        errors.map (·.kind) = [.invalidThrowType, .invalidCatchByReference,
          .invalidCatchByReference, .invalidThrowType] := ⟨_, rfl, rfl⟩
  obtain ⟨hstripped, herrors, _⟩ := qualifiers_are_only_reported h
  exact ⟨errors, h, herrors, hkinds, hstripped⟩

end Throws.Effect
