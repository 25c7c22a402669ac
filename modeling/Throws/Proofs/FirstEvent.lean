import Throws.Proofs.Summary
import Throws.Verification.Table

/-!
# Stopping at the first event

Recoverable errors are collected while a run goes on, or else the first of them ends the run. The
two ways to run differ in their control flow at every place that reports anything, but the one is
the other cut short: up to the first event both do the same.

* `Walk.CutAtFirst strict lenient`: the lenient walk only adds to the errors in the trace. If it
  adds any, the strict walk is rejected with the first one, whatever the lenient walk goes on to do.
  If it adds none, both walks are the same. The relation is kept by doing one thing after another
  (`CutAtFirst.bind`), so it holds of every walk (`cutAtFirst_infer`).
* `collect_cut`: the same for the steps that build a table.
-/

namespace Throws.Effect

open Throws.Body

namespace Walk

variable {α β : Type}

/-- The strict walk is the lenient one, cut at the first error that the latter adds to the trace. -/
def CutAtFirst (strict lenient : Walk α) : Prop :=
  ∀ trace, ∃ added, (lenient trace).2.diagnostics = trace.diagnostics ++ added ∧
    (∀ first ∈ added.head?, (strict trace).1 = .error (.rejected first)) ∧
    (added = [] → strict trace = lenient trace)

/-- A walk that reports nothing is not cut. -/
theorem CutAtFirst.of_silent {walk : Walk α}
    (h : ∀ trace, (walk trace).2.diagnostics = trace.diagnostics) : CutAtFirst walk walk := by
  intro trace
  refine ⟨[], ?_, fun _ hfirst => absurd hfirst (Option.not_mem_none _), fun _ => rfl⟩
  rw [h, List.append_nil]

theorem CutAtFirst.pure (a : α) : CutAtFirst (pure a : Walk α) (pure a) :=
  .of_silent fun _ => rfl

theorem CutAtFirst.stop (reason : Stop) : CutAtFirst (stop reason : Walk α) (stop reason) :=
  .of_silent fun _ => rfl

/-- A walk that comes to a summary without a fault and without errors is not cut. -/
theorem CutAtFirst.of_follows {walk : Walk ExceptionSet} {summary : Summary}
    (h : walk.Follows summary) (hfault : summary.fault? = none)
    (hproblems : summary.problems = []) : CutAtFirst walk walk := by
  refine .of_silent fun trace => ?_
  have hwalk := h trace
  rw [hfault] at hwalk
  rw [hwalk, hproblems]
  exact List.append_nil _

/-- One walk after another is cut where the first of them is, or else where the second is. -/
theorem CutAtFirst.bind {strict lenient : Walk α} {next next' : α → Walk β}
    (h : CutAtFirst strict lenient) (hnext : ∀ a, CutAtFirst (next a) (next' a)) :
    CutAtFirst (strict >>= next) (lenient >>= next') := by
  intro trace
  obtain ⟨added, hadded, hfirst, hsame⟩ := h trace
  rw [bind_apply lenient]
  cases added with
  | nil =>
    -- Nothing has been reported yet, so whatever comes next starts from the same trace.
    rw [bind_apply strict, hsame rfl]
    generalize lenient trace = outcome at hadded
    obtain ⟨result, after⟩ := outcome
    cases result with
    | error reason => exact ⟨[], hadded, fun _ h => absurd h (Option.not_mem_none _), fun _ => rfl⟩
    | ok a =>
      obtain ⟨later, hlater, hfirst', hsame'⟩ := hnext a after
      rw [List.append_nil] at hadded
      exact ⟨later, hadded ▸ hlater, hfirst', hsame'⟩
  | cons first rest =>
    -- The strict walk is over, and the lenient one can only add more errors behind the first.
    have hstrict : ∀ diagnostic ∈ some first,
        ((strict >>= next) trace).1 = .error (.rejected diagnostic) :=
      fun diagnostic hmem => fst_bind_of_error (hfirst diagnostic hmem) next
    have hne : ∀ more, first :: more ≠ [] := fun more => List.cons_ne_nil first more
    generalize lenient trace = outcome at hadded
    obtain ⟨result, after⟩ := outcome
    cases result with
    | error reason => exact ⟨first :: rest, hadded, hstrict, fun h => absurd h (hne _)⟩
    | ok a =>
      obtain ⟨later, hlater, _, _⟩ := hnext a after
      refine ⟨first :: (rest ++ later), ?_, hstrict, fun h => absurd h (hne _)⟩
      rw [hlater, hadded, List.append_assoc, List.cons_append]

end Walk

open Walk

/-- The same context, but the first recoverable error stops the walk. -/
def Context.strict (context : Context) : Context := { context with collecting := false }

/-- A part that may be left out is cut where the part itself is. -/
theorem cutAtFirst_optional (part : Node) {strict lenient : Walk ExceptionSet}
    (h : CutAtFirst strict lenient) :
    CutAtFirst (optional part strict) (optional part lenient) := by
  cases part with
  | absent => exact .pure ∅
  | _ => exact h

section Reports

variable {context : Context} (hcollecting : context.collecting = true)
include hcollecting

/-- A report is an event: it is all that the lenient walk adds, and it ends the strict one. -/
theorem cutAtFirst_report (problem : Problem) (span : Span) :
    CutAtFirst (context.strict.report problem span) (context.report problem span) := by
  intro trace
  refine ⟨[problem.report context.function span], ?_, ?_, fun h => absurd h (List.cons_ne_nil _ _)⟩
  · rw [report_apply hcollecting]
  · rintro _ ⟨⟩
    rfl

theorem cutAtFirst_thrown (type : Option ValueType) (span : Span) :
    CutAtFirst (context.strict.thrown type span) (context.thrown type span) := by
  cases type with
  | none => exact .stop _
  | some type =>
    cases hplain : type.isPlain <;>
      simp only [Context.thrown, hplain, Bool.false_eq_true, if_true, if_false]
    · exact (cutAtFirst_report hcollecting _ span).bind fun _ => .pure _
    · exact .pure _

theorem cutAtFirst_checkClause (clause : Clause) :
    CutAtFirst (context.strict.checkClause clause) (context.checkClause clause) := by
  unfold Context.checkClause
  cases clause.type with
  | none => exact .pure ()
  | some type =>
    -- A reference comes first, and then a qualifier.
    cases href : type.isRef <;> cases hqualified : type.isQualified <;>
      simp only [href, hqualified, Bool.false_eq_true, if_true, if_false]
    · exact .pure ()
    · exact cutAtFirst_report hcollecting _ _
    · exact (cutAtFirst_report hcollecting _ _).bind fun _ => .pure ()
    · exact (cutAtFirst_report hcollecting _ _).bind fun _ => cutAtFirst_report hcollecting _ _

theorem cutAtFirst_forM_checkClause (clauses : List Clause) :
    CutAtFirst (clauses.forM context.strict.checkClause) (clauses.forM context.checkClause) := by
  induction clauses with
  | nil => exact .pure ()
  | cons clause rest ih => exact .bind (cutAtFirst_checkClause hcollecting clause) fun _ => ih

/-- The handlers of a `try` are checked after its body, and forgetting places is no event. -/
theorem cutAtFirst_guardedBody {strict lenient : Walk ExceptionSet}
    (h : CutAtFirst strict lenient) (clauses : List Clause) :
    CutAtFirst (context.strict.guardedBody strict clauses)
      (context.guardedBody lenient clauses) := by
  unfold Context.guardedBody
  refine .bind (.of_silent fun _ => rfl) fun before => ?_
  refine .bind h fun effect => ?_
  refine .bind (cutAtFirst_forM_checkClause hcollecting clauses) fun _ => ?_
  refine .of_silent fun trace => ?_
  cases (uncaught effect clauses).isUniversal <;> rfl

end Reports

mutual

/-- Without anybody to collect errors, a walk is cut at the first of them. -/
theorem cutAtFirst_infer {context : Context} (hcollecting : context.collecting = true)
    (node : Node) (handled : Option ExceptionSet) :
    CutAtFirst (infer context.strict node handled) (infer context node handled) := by
  cases node with
  | absent | misplaced | depths =>
    rw [infer, infer]
    exact .stop _
  | literal | «variable» | leave | next =>
    rw [infer, infer]
    exact .pure ∅
  | call callee args spelling span =>
    cases callee with
    | none =>
      rw [infer, infer]
      exact .stop _
    | some key =>
      rw [infer, infer]
      -- The call itself leaves at most a place behind, so only its arguments can report anything.
      have hcall := called_follows context key args spelling span handled
      exact .bind (cutAtFirst_inferAll hcollecting args handled) fun _ =>
        .bind (.of_follows hcall rfl rfl) fun _ => .pure _
  | indirectCall callee contract args span =>
    rw [infer, infer]
    have hcall := calledThrough_follows context callee contract args span handled
    exact .bind (cutAtFirst_infer hcollecting callee handled) fun _ =>
      .bind (cutAtFirst_inferAll hcollecting args handled) fun _ =>
        .bind (.of_follows hcall rfl rfl) fun _ => .pure _
  | construct type args span =>
    rw [infer, infer]
    exact cutAtFirst_inferAll hcollecting args handled
  | unary op operand span =>
    rw [infer, infer]
    exact cutAtFirst_infer hcollecting operand handled
  | binary op left right span =>
    rw [infer, infer]
    exact .bind (cutAtFirst_infer hcollecting left handled) fun _ =>
      .bind (cutAtFirst_infer hcollecting right handled) fun _ => .pure _
  | block statements span =>
    rw [infer, infer]
    exact cutAtFirst_inferAll hcollecting statements handled
  | eval expr span =>
    rw [infer, infer]
    exact cutAtFirst_infer hcollecting expr handled
  | bind name value span =>
    rw [infer, infer]
    exact cutAtFirst_optional value (cutAtFirst_infer hcollecting value handled)
  | ret value span =>
    rw [infer, infer]
    exact cutAtFirst_optional value (cutAtFirst_infer hcollecting value handled)
  | throw value type span =>
    rw [infer, infer]
    -- The operand comes first, so an error in it hides one in the type of the throw.
    exact .bind (cutAtFirst_infer hcollecting value handled) fun _ =>
      .bind (cutAtFirst_thrown hcollecting type span) fun _ => .pure _
  | rethrow span =>
    rw [infer, infer]
    exact .of_follows (rethrown_follows context span handled) rfl rfl
  | branch condition whenTrue whenFalse span =>
    rw [infer, infer]
    exact .bind (cutAtFirst_optional _ (cutAtFirst_infer hcollecting condition handled)) fun _ =>
      .bind (cutAtFirst_optional _ (cutAtFirst_infer hcollecting whenTrue handled)) fun _ =>
        .bind (cutAtFirst_optional _ (cutAtFirst_infer hcollecting whenFalse handled)) fun _ =>
          .pure _
  | loop body condition init step span =>
    rw [infer, infer]
    exact .bind (cutAtFirst_optional _ (cutAtFirst_infer hcollecting init handled)) fun _ =>
      .bind (cutAtFirst_optional _ (cutAtFirst_infer hcollecting condition handled)) fun _ =>
        .bind (cutAtFirst_optional _ (cutAtFirst_infer hcollecting body handled)) fun _ =>
          .bind (cutAtFirst_optional _ (cutAtFirst_infer hcollecting step handled)) fun _ =>
            .pure _
  | guarded body clauses span =>
    rw [infer_guarded, infer_guarded]
    -- All handlers are checked before the block of any of them is entered.
    exact .bind (cutAtFirst_guardedBody hcollecting (cutAtFirst_infer hcollecting body handled)
      clauses) fun _ => .bind (cutAtFirst_inferHandlers hcollecting clauses) fun _ => .pure _
termination_by structural node

/-- Several nodes are walked through one by one. -/
theorem cutAtFirst_inferAll {context : Context} (hcollecting : context.collecting = true)
    (nodes : List Node) (handled : Option ExceptionSet) :
    CutAtFirst (inferAll context.strict nodes handled) (inferAll context nodes handled) := by
  cases nodes with
  | nil =>
    rw [inferAll, inferAll]
    exact .pure ∅
  | cons node rest =>
    rw [inferAll, inferAll]
    exact .bind (cutAtFirst_optional node (cutAtFirst_infer hcollecting node handled)) fun _ =>
      .bind (cutAtFirst_inferAll hcollecting rest handled) fun _ => .pure _
termination_by structural nodes

/-- Several handlers are walked through one by one. -/
theorem cutAtFirst_inferHandlers {context : Context} (hcollecting : context.collecting = true)
    (clauses : List Clause) :
    CutAtFirst (inferHandlers context.strict clauses) (inferHandlers context clauses) := by
  cases clauses with
  | nil =>
    rw [inferHandlers, inferHandlers]
    exact .pure ∅
  | cons clause rest =>
    rw [inferHandlers, inferHandlers]
    exact .bind (cutAtFirst_inferHandler hcollecting clause) fun _ =>
      .bind (cutAtFirst_inferHandlers hcollecting rest) fun _ => .pure _
termination_by structural clauses

/-- What a handler catches does not depend on who collects errors. -/
theorem cutAtFirst_inferHandler {context : Context} (hcollecting : context.collecting = true)
    (clause : Clause) :
    CutAtFirst (inferHandler context.strict clause) (inferHandler context clause) := by
  obtain ⟨type, binder, block, span⟩ := clause
  rw [inferHandler, inferHandler]
  exact cutAtFirst_infer hcollecting block _
termination_by structural clause

end

/-- With somebody to collect errors, no error ends a walk. -/
theorem infer_ne_rejected {context : Context} (hcollecting : context.collecting = true)
    (node : Node) (handled : Option ExceptionSet) (trace : Trace) (diagnostic : Diagnostic) :
    (infer context node handled trace).1 ≠ .error (.rejected diagnostic) := by
  -- A collecting walk ends as its summary says, with an effect or with a fault.
  have hfollows := infer_follows hcollecting handled node trace
  cases hfault : (context.summary handled node).fault? with
  | some found =>
    rw [hfault] at hfollows
    rw [hfollows]
    rintro ⟨⟩
  | none =>
    rw [hfault] at hfollows
    rw [hfollows]
    rintro ⟨⟩

end Throws.Effect

namespace Throws.Verification

open Throws.Body Throws.Effect Throws.Signature

/-- Carrying out steps strictly fails with the first error that is collected, and builds the same
table if there is none. -/
theorem collect_cut (table : Table) (steps : List Step) :
    (∀ first ∈ (collect table steps).2.head?, steps.foldlM Step.run table = .error first) ∧
      ((collect table steps).2 = [] →
        steps.foldlM Step.run table = .ok (collect table steps).1) := by
  induction steps generalizing table with
  | nil => exact ⟨fun _ h => absurd h (Option.not_mem_none _), fun _ => rfl⟩
  | cons step rest ih =>
    rw [collect, List.foldlM_cons]
    cases step.run table with
    | ok next => exact ih next
    | error diagnostic =>
      -- The lenient run goes on with the table as it was.
      refine ⟨?_, fun h => absurd h (List.cons_ne_nil _ _)⟩
      rintro _ ⟨⟩
      rfl

/-- A run without anybody to collect errors is the collecting run, cut at its first event. The
collecting walk only adds to the errors in the trace and is never rejected itself. If it adds any,
the strict walk is rejected with the first one, whatever comes after it, something malformed
included. If it adds none, both walks end with the same outcome and leave the same trace. Building a
table strictly fails with the first error that is collected otherwise, and builds the same table if
there is none. -/
theorem strict_runs_stop_at_first_event :
    (∀ (signatures : Source) (function : Option FunctionKey) (node : Node)
      (handled : Option ExceptionSet) (trace : Trace),
      let lenient := infer { signatures := signatures, function := function } node handled trace
      let strict := infer { signatures := signatures, function := function, collecting := false }
        node handled trace
      ∃ added, lenient.2.diagnostics = trace.diagnostics ++ added ∧
        (∀ diagnostic, lenient.1 ≠ .error (.rejected diagnostic)) ∧
        (∀ first ∈ added.head?, strict.1 = .error (.rejected first)) ∧
        (added = [] → strict = lenient)) ∧
    ∀ functions : List Function,
      (∀ first ∈ (buildTable functions).2.head?, buildTableStrictly functions = .error first) ∧
        ((buildTable functions).2 = [] →
          buildTableStrictly functions = .ok (buildTable functions).1) := by
  refine ⟨fun signatures function node handled trace => ?_,
    fun functions => collect_cut .empty (Step.plan functions)⟩
  intro lenient strict
  let context : Context := { signatures := signatures, function := function }
  have hcollecting : context.collecting = true := rfl
  obtain ⟨added, hadded, hfirst, hsame⟩ := cutAtFirst_infer hcollecting node handled trace
  exact ⟨added, hadded, infer_ne_rejected hcollecting node handled trace, hfirst, hsame⟩

/-- A handler that catches by reference around a throw of a `const` value, and then a call without a
target: `try { throw const A; } catch (B&) { } g();`. -/
def qualifiedThenMalformed : Node :=
  .block [
    .guarded (.throw (.literal (.int 1) {}) (some { name := "A", isConst := true }) {})
      [.mk (some { name := "B", isRef := true }) none (.block [] {}) {}] {},
    .eval (.call none [] (some "g") {}) {}] {}

/-- Collecting, the walk through `qualifiedThenMalformed` adds two errors and then breaks off at the
call of `g`; strictly, it is rejected with the first of the two. The call by itself breaks off both
walks alike. Of two declarations that disagree the second is rejected, and a table of the first one
alone is built either way. -/
theorem strict_qualifiedThenMalformed :
    let malformed : Stop := .malformed (.unresolvedCall (some "g")) {}
    let first := (Effect.Problem.thrown { name := "A", isConst := true }).report none {}
    let second := (Effect.Problem.caughtByReference { name := "B", isRef := true }).report none {}
    let call : Node := .call none [] (some "g") {}
    let declared : Function := { key := { name := "f" }, specifier := .nothrow }
    let other : Function := { key := { name := "f" } }
    let conflict := (Signature.Problem.conflict { contract := .declared ∅ } .undeclared).report
      { name := "f" } {}
    infer { signatures := .empty } qualifiedThenMalformed none {} =
        (.error malformed, { diagnostics := [first, second] }) ∧
      (infer { signatures := .empty, collecting := false } qualifiedThenMalformed none {}).1 =
        .error (.rejected first) ∧
      infer { signatures := .empty, collecting := false } call none {} =
        (.error malformed, {}) ∧
      (buildTable [declared, other]).2 = [conflict] ∧
      buildTableStrictly [declared, other] = .error conflict ∧
      buildTableStrictly [declared] = .ok (buildTable [declared]).1 := by
  intro malformed first second call declared other conflict
  obtain ⟨hwalk, htable⟩ := strict_runs_stop_at_first_event
  have hrun : infer { signatures := .empty } qualifiedThenMalformed none {} =
      (.error malformed, { diagnostics := [first, second] }) := by rfl
  obtain ⟨added, hadded, _, hrejected, _⟩ := hwalk .empty none qualifiedThenMalformed none {}
  obtain rfl : [first, second] = added := by
    rw [hrun] at hadded
    exact hadded
  obtain ⟨added, hadded, _, _, hsame⟩ := hwalk .empty none call none {}
  obtain rfl : [] = added := hadded
  have hconflict : (buildTable [declared, other]).2 = [conflict] := by rfl
  refine ⟨hrun, hrejected first rfl, hsame rfl, hconflict, ?_, (htable [declared]).2 rfl⟩
  exact (htable [declared, other]).1 conflict (by rw [hconflict]; rfl)

end Throws.Verification
