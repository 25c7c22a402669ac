import Throws.Proofs.DepthLimit
import Throws.Verification.Definition

/-!
# Reports on definitions

What `verifyFunction` returns, in terms of the summary of the body: the first fault, or else a
report made of three parts. First comes a disagreement about the contract, then come the errors of
the walk, and last comes the escape of what the contract does not allow. The main result is
`diagnostics_verifyFunction`, which says so in terms of a walk through the whole body that knows
nothing of the verification around it.
-/

namespace Throws.Effect

open Throws.Body

/-- The errors of a node are those of its parts, each followed by those of the handlers around it,
and then its own. -/
theorem Context.problems_summary (context : Context) (handled : Option ExceptionSet)
    (node : Node) :
    (context.summary handled node).problems = (node.parts.flatMap fun part =>
        (context.summary (handledBelow part.1 handled) part.2).problems
          ++ part.1.guards.flatMap context.clauseProblems)
      ++ (context.own handled node).problems := by
  -- Nothing is reported on entering a node, and handlers are checked right after their body.
  have hentry : (entry node).problems = [] := by
    cases node with
    | call callee args spelling span => cases callee <;> rfl
    | _ => rfl
  have hthrough : ∀ (part : Summary) (descent : Descent), (context.through part descent).problems =
      part.problems ++ descent.guards.flatMap context.clauseProblems := by
    intro part descent
    cases descent with
    | guarded clauses => rfl
    | _ => exact (List.append_nil _).symm
  rw [summary_eq, Summary.problems_append, Summary.problems_append, hentry, List.nil_append,
    Summary.problems_concat, List.flatMap_map]
  simp only [hthrough]

/-- Every error of a walk reports a problem with a type that is thrown or caught. -/
theorem exists_problem_of_mem_problems {context : Context} {handled : Option ExceptionSet}
    {node : Node} {diagnostic : Diagnostic}
    (h : diagnostic ∈ (context.summary handled node).problems) :
    ∃ (problem : Problem) (span : Span), diagnostic = problem.report context.function span := by
  refine Node.parts_induction (motive := fun node => ∀ handled,
    diagnostic ∈ (context.summary handled node).problems →
      ∃ (problem : Problem) (span : Span), diagnostic = problem.report context.function span)
    (fun node ih handled h => ?_) node handled h
  rw [Context.problems_summary, List.mem_append, List.mem_flatMap] at h
  rcases h with ⟨part, hpart, h⟩ | h
  · rcases List.mem_append.mp h with h | h
    · exact ih part hpart _ h
    · -- A handler adds up to two errors.
      obtain ⟨clause, _, h⟩ := List.mem_flatMap.mp h
      unfold Context.clauseProblems at h
      split at h
      · cases h
      · rcases List.mem_append.mp h with h | h
        · split at h
          · exact ⟨_, _, List.mem_singleton.mp h⟩
          · cases h
        · split at h
          · exact ⟨_, _, List.mem_singleton.mp h⟩
          · cases h
  · -- Of all nodes, only a throw adds an error itself.
    cases node with
    | throw value type span =>
      cases type with
      | none => cases h
      | some type =>
        change diagnostic ∈ (if type.isPlain then [] else _) at h
        split at h
        · cases h
        · exact ⟨_, _, List.mem_singleton.mp h⟩
    | call callee args spelling span => cases callee <;> cases h
    | _ => cases h

end Throws.Effect

namespace Throws.Verification

open Throws.Body Throws.Effect

/-- As much of a body as is looked at. -/
def analysed (depth : Option Nat) (body : Node) : Node :=
  match depth with
  | some levels => body.prune levels
  | none => body

/-- What the walk through the body of a function comes to. -/
def bodySummary (depth : Option Nat) (signatures : Signature.Source) (key : FunctionKey)
    (body : Node) : Summary :=
  Context.summary { signatures := signatures, function := some key } none (analysed depth body)

/-- A limit on the depth makes no difference where no fault is found. -/
theorem bodySummary_eq_of_fault? {depth : Option Nat} {signatures : Signature.Source}
    {key : FunctionKey} {body : Node}
    (h : (bodySummary depth signatures key body).fault? = none) :
    bodySummary depth signatures key body =
      Context.summary { signatures := signatures, function := some key } none body := by
  cases depth with
  | none => rfl
  | some levels =>
    simp only [bodySummary, analysed] at h ⊢
    exact Context.summary_prune _ h

/-- The report on a definition whose body has no fault. -/
def bodyReport (depth : Option Nat) (signatures : Signature.Source) (function : Function)
    (body : Node) : Report :=
  let registered := signatures.lookup function.key
  let summary := bodySummary depth signatures function.key body
  { function := function.key
    effect := some summary.effect
    diagnostics := (mismatch? function registered).toList.map (·.report function)
      ++ summary.problems
      ++ (escape? registered summary.effect summary.sites).toList.map (·.report function) }

section Outcome

variable {depth : Option Nat} {signatures : Signature.Source} {function : Function} {body : Node}

/-- The walk of a verification follows the summary of the body. -/
theorem infer_analysed_follows (depth : Option Nat) (signatures : Signature.Source)
    (key : FunctionKey) (body : Node) :
    (infer { signatures := signatures, function := some key } (analysed depth body) none).Follows
      (bodySummary depth signatures key body) :=
  infer_follows rfl none (analysed depth body)

/-- Verifying a definition stops at the fault of its body. -/
theorem verifyFunction_of_fault {fault : Fault} {span : Span} (hbody : function.body = some body)
    (hfault : (bodySummary depth signatures function.key body).fault? = some (fault, span)) :
    verifyFunction depth signatures function = .error (.ofFault function span fault) := by
  have hrun := infer_analysed_follows depth signatures function.key body
    ⟨(mismatch? function (signatures.lookup function.key)).toList.map (·.report function), []⟩
  rw [hfault] at hrun
  unfold verifyFunction
  rw [hbody]
  dsimp only
  -- The walk ends in one of three ways, of which `hrun` leaves one.
  split
  case h_1 heq =>
    cases (congrArg Prod.fst heq).symm.trans hrun
    rfl
  case h_2 heq => cases (congrArg Prod.fst heq).symm.trans hrun
  case h_3 heq => cases (congrArg Prod.fst heq).symm.trans hrun

/-- A definition whose body has no fault gets its report. -/
theorem verifyFunction_of_no_fault (hbody : function.body = some body)
    (hfault : (bodySummary depth signatures function.key body).fault? = none) :
    verifyFunction depth signatures function = .ok (bodyReport depth signatures function body) := by
  have hrun := infer_analysed_follows depth signatures function.key body
    ⟨(mismatch? function (signatures.lookup function.key)).toList.map (·.report function), []⟩
  rw [hfault] at hrun
  unfold verifyFunction
  rw [hbody]
  dsimp only
  split
  case h_1 heq => cases heq.symm.trans hrun
  case h_2 heq => cases heq.symm.trans hrun
  case h_3 heq =>
    cases heq.symm.trans hrun
    rfl

/-- Without a body, only a disagreement about the contract can be found. -/
theorem verifyFunction_of_no_body (hbody : function.body = none) :
    verifyFunction depth signatures function = .ok {
      function := function.key
      diagnostics := (mismatch? function (signatures.lookup function.key)).toList.map
        (·.report function) } := by
  unfold verifyFunction
  rw [hbody]

/-- A definition gets a report exactly if its body has no fault. -/
theorem verifyFunction_eq_ok_iff (hbody : function.body = some body) {report : Report} :
    verifyFunction depth signatures function = .ok report ↔
      (bodySummary depth signatures function.key body).fault? = none ∧
        report = bodyReport depth signatures function body := by
  cases hfault : (bodySummary depth signatures function.key body).fault? with
  | some found =>
    rw [verifyFunction_of_fault hbody hfault]
    simp
  | none =>
    rw [verifyFunction_of_no_fault hbody hfault, Except.ok.injEq]
    simp [eq_comm]

end Outcome

/-- A disagreement about the contract is not an escape. -/
theorem kind_ne_of_mem_mismatch {function : Function} {registered : Contract}
    {diagnostic : Diagnostic}
    (h : diagnostic ∈ (mismatch? function registered).toList.map (·.report function)) :
    diagnostic.kind ≠ .undeclaredEscape := by
  obtain ⟨problem, hproblem, rfl⟩ := List.mem_map.mp h
  unfold mismatch? at hproblem
  split at hproblem
  · rw [Option.toList_some, List.mem_singleton] at hproblem
    subst hproblem
    exact nofun
  · cases hproblem

/-- Only a function with a body is reported for an escape. -/
theorem exists_body_of_undeclaredEscape {depth : Option Nat} {signatures : Signature.Source}
    {function : Function} {report : Report} {diagnostic : Diagnostic}
    (h : verifyFunction depth signatures function = .ok report)
    (hmem : diagnostic ∈ report.diagnostics) (hkind : diagnostic.kind = .undeclaredEscape) :
    ∃ body, function.body = some body := by
  cases hbody : function.body with
  | some body => exact ⟨body, rfl⟩
  | none =>
    rw [verifyFunction_of_no_body hbody] at h
    cases h
    exact absurd hkind (kind_ne_of_mem_mismatch hmem)

/-- In the report on a definition, an escape is reported exactly if the contract does not allow the
effect of the body, and then with what the contract leaves of the effect. -/
theorem mem_bodyReport_and_undeclaredEscape_iff {depth : Option Nat}
    {signatures : Signature.Source} {function : Function} {body : Node} {diagnostic : Diagnostic} :
    let registered := signatures.lookup function.key
    let summary := bodySummary depth signatures function.key body
    (diagnostic ∈ (bodyReport depth signatures function body).diagnostics ∧
        diagnostic.kind = .undeclaredEscape) ↔
      ¬ summary.effect ⊆ registered.effective ∧
        diagnostic = (Problem.escape registered (summary.effect \ registered.effective)
          summary.sites).report function := by
  intro registered summary
  have hproblems : ∀ diagnostic ∈ summary.problems, diagnostic.kind ≠ .undeclaredEscape := by
    intro diagnostic h
    obtain ⟨problem, span, rfl⟩ := exists_problem_of_mem_problems h
    cases problem <;> exact nofun
  have hescape : ∀ diagnostic,
      diagnostic ∈ (escape? registered summary.effect summary.sites).toList.map
        (·.report function) ↔ ¬ summary.effect ⊆ registered.effective ∧ diagnostic =
          (Problem.escape registered (summary.effect \ registered.effective)
            summary.sites).report function := by
    intro diagnostic
    unfold escape?
    split <;> simp [*]
  -- Of the three parts of the report, only the last one is about an escape.
  change diagnostic ∈ _ ++ _ ++ _ ∧ _ ↔ _
  rw [List.mem_append, List.mem_append, hescape]
  constructor
  · rintro ⟨(h | h) | h, hkind⟩
    · exact absurd hkind (kind_ne_of_mem_mismatch h)
    · exact absurd hkind (hproblems diagnostic h)
    · exact h
  · rintro ⟨hnot, rfl⟩
    exact ⟨.inr ⟨hnot, rfl⟩, rfl⟩

/-- Errors of a walk are about types that may not be thrown or caught the way they are, and they
name the function whose body is walked through. -/
theorem kind_of_mem_problems {context : Context} {handled : Option ExceptionSet} {node : Node}
    {diagnostic : Diagnostic} (h : diagnostic ∈ (context.summary handled node).problems) :
    diagnostic.function = context.function ∧
      (diagnostic.kind = .invalidThrowType ∨ diagnostic.kind = .invalidCatchByReference) := by
  obtain ⟨problem, span, rfl⟩ := exists_problem_of_mem_problems h
  refine ⟨rfl, ?_⟩
  cases problem with
  | thrown type => exact .inl rfl
  | caughtByReference type => exact .inr rfl
  | caughtQualified type => exact .inl rfl

/-- The report is made of a disagreement, if there is one, of the errors of the walk, and of an
escape, if there is one. -/
theorem diagnostics_bodyReport (depth : Option Nat) (signatures : Signature.Source)
    (function : Function) (body : Node) :
    let registered := signatures.lookup function.key
    let own := function.specifier.meaning
    let summary := bodySummary depth signatures function.key body
    (bodyReport depth signatures function body).diagnostics =
      (if function.specifier.isWritten = true ∧ function.specifier.isConflicting = false ∧
          own.effective ≠ registered.effective
        then [(Problem.mismatch own registered).report function] else [])
      ++ summary.problems
      ++ if summary.effect ⊆ registered.effective then [] else
        [(Problem.escape registered (summary.effect \ registered.effective)
          summary.sites).report function] := by
  intro registered own summary
  have hmismatch : (mismatch? function registered).toList.map (·.report function) =
      if function.specifier.isWritten = true ∧ function.specifier.isConflicting = false ∧
          own.effective ≠ registered.effective
        then [(Problem.mismatch own registered).report function] else [] := by
    simp only [mismatch?, Bool.and_eq_true, Bool.not_eq_true', decide_eq_true_eq, and_assoc]
    split <;> rfl
  have hescape : (escape? registered summary.effect summary.sites).toList.map (·.report function) =
      if summary.effect ⊆ registered.effective then [] else
        [(Problem.escape registered (summary.effect \ registered.effective)
          summary.sites).report function] := by
    unfold escape?
    split <;> rfl
  rw [← hmismatch, ← hescape]
  rfl

/-- What a bounded contract leaves of an effect that it does not allow is never nothing, and it is
unbounded just if the effect is. -/
theorem sdiff_of_not_subset {effect allowed : ExceptionSet} (h : ¬ effect ⊆ allowed) :
    (effect \ allowed).isEmpty = false ∧
      ((effect \ allowed).isUniversal = true ↔ effect.isUniversal = true) := by
  constructor
  · rw [Bool.eq_false_iff, ne_eq, ExceptionSet.isEmpty_iff]
    exact fun hempty => h (sdiff_eq_bot_iff.mp hempty)
  · -- The contract is bounded, since it does not allow everything.
    have hbounded : allowed.isUniversal = false := by
      refine Bool.eq_false_iff.mpr fun huniversal => h ?_
      have htop : effect ≤ .universal := le_top
      rwa [← ExceptionSet.isUniversal_iff.mp huniversal] at htop
    rw [ExceptionSet.isUniversal_sdiff, hbounded, Bool.not_false, Bool.and_true]

/-- What the report on a definition consists of. First comes one `DeclarationDefinitionMismatch` if
the definition writes a contract that has a meaning other than the one registered. Then come the
errors that a walk through the body by itself finds. Last comes one `UndeclaredEscape` if the
contract does not allow the effect of the body. All of them name the function.

What is said to escape is what the contract leaves of the effect. That is never nothing, lists no
type that the contract allows, makes up for all that the contract does not allow, and is unbounded
just if the effect is; an unbounded set lists no types at all. -/
theorem diagnostics_verifyFunction {depth : Option Nat} {signatures : Signature.Source}
    {function : Function} {body : Node} {report : Report} (hbody : function.body = some body)
    (h : verifyFunction depth signatures function = .ok report) :
    let registered := signatures.lookup function.key
    let own := function.specifier.meaning
    let disagreement := (Problem.mismatch own registered).report function
    ∃ effect trace, infer { signatures := signatures, function := some function.key } body none {} =
        (.ok effect, trace) ∧
      let escaping := effect \ registered.effective
      let escape := (Problem.escape registered escaping trace.sites).report function
      report.diagnostics =
        (if function.specifier.isWritten = true ∧ function.specifier.isConflicting = false ∧
            own.effective ≠ registered.effective
          then [disagreement] else [])
        ++ trace.diagnostics
        ++ (if effect ⊆ registered.effective then [] else [escape]) ∧
      disagreement.kind = .declarationDefinitionMismatch ∧
      disagreement.function = some function.key ∧
      escape.kind = .undeclaredEscape ∧
      escape.function = some function.key ∧
      escape.escaping = some escaping ∧
      (∀ diagnostic ∈ trace.diagnostics, diagnostic.function = some function.key ∧
        (diagnostic.kind = .invalidThrowType ∨ diagnostic.kind = .invalidCatchByReference)) ∧
      (∀ name ∈ escaping.names, name ∉ registered.effective) ∧
      effect ⊆ escaping ∪ registered.effective ∧
      (¬ effect ⊆ registered.effective →
        escaping.isEmpty = false ∧ (escaping.isUniversal = true ↔ effect.isUniversal = true)) := by
  intro registered own disagreement
  obtain ⟨hfault, rfl⟩ := (verifyFunction_eq_ok_iff hbody).mp h
  have hwhole := bodySummary_eq_of_fault? hfault
  let summary := bodySummary depth signatures function.key body
  refine ⟨summary.effect, ⟨summary.problems, summary.sites⟩, ?_,
    diagnostics_bodyReport depth signatures function body, rfl, rfl, rfl, rfl, rfl,
    fun diagnostic hdiagnostic => kind_of_mem_problems hdiagnostic,
    fun name hname => ExceptionSet.not_mem_of_mem_names_sdiff hname, ?_, sdiff_of_not_subset⟩
  · -- By itself the walk starts without the disagreement, and that is all that differs.
    rw [hwhole] at hfault
    simp only [summary, hwhole]
    exact (infer_eq_ok_iff rfl).mpr ⟨hfault, rfl, rfl⟩
  · have hcover : summary.effect ≤ summary.effect \ registered.effective ⊔ registered.effective :=
      le_sdiff_sup
    exact hcover

/-- A definition in which everything is wrong that can be:
`void f() noexcept { try { throw const B; } catch (C&) { } }`. -/
def misdeclared : Function := {
  key := { name := "f" }
  specifier := .nothrow
  body := some (.guarded
    (.throw (.literal (.int 1) {}) (some { name := "B", isConst := true }) {})
    [.mk (some { name := "C", isRef := true }) none (.block [] {}) {}] {}) }

/-- With `f` registered as `throws(A)`, the report on `misdeclared` has a disagreement, the two
errors of the walk and an escape of `B`, in this order, and each of them names `f`. -/
theorem diagnostics_misdeclared :
    let registered : Contract := .declared (.ofList ["A"])
    let signatures : Signature.Source := ⟨fun _ => some registered⟩
    ∃ report effect trace, verifyFunction none signatures misdeclared = .ok report ∧
      misdeclared.body.map (infer { signatures := signatures, function := some misdeclared.key }
        · none {}) = some (.ok effect, trace) ∧
      report.diagnostics =
        [(Problem.mismatch (.declared ∅) registered).report misdeclared] ++ trace.diagnostics
        ++ [(Problem.escape registered (effect \ registered.effective) []).report misdeclared] ∧
      report.diagnostics.map (fun diagnostic =>
          (diagnostic.kind, diagnostic.function, diagnostic.escaping)) =
        [(.declarationDefinitionMismatch, some { name := "f" }, none),
          (.invalidThrowType, some { name := "f" }, none),
          (.invalidCatchByReference, some { name := "f" }, none),
          (.undeclaredEscape, some { name := "f" }, some (.single "B"))] ∧
      effect ⊆ (effect \ registered.effective) ∪ registered.effective ∧
      (effect \ registered.effective).isEmpty = false := by
  intro registered signatures
  have hbody : misdeclared.body = some _ := rfl
  obtain ⟨report, h⟩ : ∃ report, verifyFunction none signatures misdeclared = .ok report := ⟨_, rfl⟩
  obtain ⟨effect, trace, hrun, hdiagnostics, _, _, _, _, _, _, _, hcover, hescaping⟩ :=
    diagnostics_verifyFunction hbody h
  obtain rfl : ExceptionSet.single "B" = effect := Except.ok.inj (congrArg Prod.fst hrun)
  obtain rfl := congrArg Prod.snd hrun
  exact ⟨report, _, _, h, rfl, hdiagnostics, by rw [hdiagnostics]; rfl, hcover,
    (hescaping (by decide)).1⟩

end Throws.Verification
