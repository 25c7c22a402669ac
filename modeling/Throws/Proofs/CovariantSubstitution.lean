import Throws.Proofs.ContractOrder
import Throws.Proofs.EscapeRepair
import Throws.Proofs.MalformedInput
import Throws.Proofs.TableContents

/-!
# Covariant substitution

A function whose contract is covariant to another one may stand in for it, and nobody who calls it
has to be checked again. Inference is monotone: if the contracts of the functions that are called,
the contracts at calls through function values and the handled set all get narrower, so does the
effect. This holds although handlers take exceptions away and bind what a bare `throw;` throws,
since what a handler catches depends on its type alone.

Two walks are compared by `Walk.Related`, which says that they stop for the same reason or that both
return, with results in a given relation. The relation does not look at traces, so it serves for
walks that collect their errors and for walks that stop at the first one.
-/

namespace Throws.Body

mutual

/-- Two fragments that differ at most in the contracts at calls through function values, where these
are in a given relation. -/
inductive Recontracted (related : Contract → Contract → Prop) : Node → Node → Prop
  | absent : Recontracted related .absent .absent
  | misplaced {what span} : Recontracted related (.misplaced what span) (.misplaced what span)
  | depths : Recontracted related .depths .depths
  | literal {value span} : Recontracted related (.literal value span) (.literal value span)
  | variable {name span} : Recontracted related (.variable name span) (.variable name span)
  | call {callee args args' spelling span} : List.Forall₂ (Recontracted related) args args' →
      Recontracted related (.call callee args spelling span) (.call callee args' spelling span)
  | indirectCall {callee callee' contract contract' args args' span} :
      Recontracted related callee callee' → related contract contract' →
      List.Forall₂ (Recontracted related) args args' →
      Recontracted related (.indirectCall callee contract args span)
        (.indirectCall callee' contract' args' span)
  | construct {type args args' span} : List.Forall₂ (Recontracted related) args args' →
      Recontracted related (.construct type args span) (.construct type args' span)
  | unary {op operand operand' span} : Recontracted related operand operand' →
      Recontracted related (.unary op operand span) (.unary op operand' span)
  | binary {op left left' right right' span} : Recontracted related left left' →
      Recontracted related right right' →
      Recontracted related (.binary op left right span) (.binary op left' right' span)
  | block {statements statements' span} :
      List.Forall₂ (Recontracted related) statements statements' →
      Recontracted related (.block statements span) (.block statements' span)
  | eval {expr expr' span} : Recontracted related expr expr' →
      Recontracted related (.eval expr span) (.eval expr' span)
  | bind {name value value' span} : Recontracted related value value' →
      Recontracted related (.bind name value span) (.bind name value' span)
  | ret {value value' span} : Recontracted related value value' →
      Recontracted related (.ret value span) (.ret value' span)
  | throw {value value' type span} : Recontracted related value value' →
      Recontracted related (.throw value type span) (.throw value' type span)
  | rethrow {span} : Recontracted related (.rethrow span) (.rethrow span)
  | branch {condition condition' whenTrue whenTrue' whenFalse whenFalse' span} :
      Recontracted related condition condition' → Recontracted related whenTrue whenTrue' →
      Recontracted related whenFalse whenFalse' →
      Recontracted related (.branch condition whenTrue whenFalse span)
        (.branch condition' whenTrue' whenFalse' span)
  | loop {body body' condition condition' init init' step step' span} :
      Recontracted related body body' → Recontracted related condition condition' →
      Recontracted related init init' → Recontracted related step step' →
      Recontracted related (.loop body condition init step span)
        (.loop body' condition' init' step' span)
  | leave {span} : Recontracted related (.leave span) (.leave span)
  | next {span} : Recontracted related (.next span) (.next span)
  | guarded {body body' clauses clauses' span} : Recontracted related body body' →
      List.Forall₂ (RecontractedClause related) clauses clauses' →
      Recontracted related (.guarded body clauses span) (.guarded body' clauses' span)

/-- Two handlers that differ at most in the contracts at calls in their blocks. -/
inductive RecontractedClause (related : Contract → Contract → Prop) : Clause → Clause → Prop
  | mk {type binder block block' span} : Recontracted related block block' →
      RecontractedClause related (.mk type binder block span) (.mk type binder block' span)

end

end Throws.Body

namespace Throws.Effect

open Throws.Body

namespace Walk

variable {α β γ δ : Type}

/-- Two walks end in the same way: they stop for the same reason, or both return and the results are
in the given relation. -/
inductive SameEnd (related : α → β → Prop) : Except Stop α → Except Stop β → Prop
  | returned {a : α} {b : β} : related a b → SameEnd related (.ok a) (.ok b)
  | stopped {reason : Stop} : SameEnd related (.error reason) (.error reason)

/-- Two walks end in the same way, whatever their traces are. -/
def Related (related : α → β → Prop) (walk : Walk α) (other : Walk β) : Prop :=
  ∀ trace trace', SameEnd related (walk trace).1 (other trace').1

variable {related : α → β → Prop} {walk : Walk α} {other : Walk β}

theorem Related.pure {a : α} {b : β} (h : related a b) :
    Related related (pure a : Walk α) (pure b : Walk β) :=
  fun _ _ => .returned h

theorem Related.stop (reason : Stop) : Related related (stop reason) (stop reason) :=
  fun _ _ => .stopped

/-- Changing the trace is always possible. -/
theorem Related.modify (change change' : Trace → Trace) :
    Related (fun _ _ => True) (modify change) (modify change') :=
  fun _ _ => .returned trivial

/-- Two walks that go on in the same way after ending in the same way end in the same way. -/
theorem Related.bind {after : γ → δ → Prop} {next : α → Walk γ} {next' : β → Walk δ}
    (h : Related related walk other)
    (hnext : ∀ a b, related a b → Related after (next a) (next' b)) :
    Related after (walk >>= next) (other >>= next') := by
  intro trace trace'
  have hend := h trace trace'
  rw [bind_apply, bind_apply]
  generalize walk trace = outcome at hend
  generalize other trace' = outcome' at hend
  obtain ⟨result, rest⟩ := outcome
  obtain ⟨result', rest'⟩ := outcome'
  cases hend with
  | returned hab => exact hnext _ _ hab rest rest'
  | stopped => exact .stopped

/-- Walks that come to summaries without a fault return the effects of these. -/
theorem Related.of_follows {walk other : Walk ExceptionSet} {summary summary' : Summary}
    (h : walk.Follows summary) (h' : other.Follows summary') (hfault : summary.fault? = none)
    (hfault' : summary'.fault? = none) (hle : summary.effect ≤ summary'.effect) :
    Related (· ≤ ·) walk other := by
  intro trace trace'
  have hwalk := h trace
  have hother := h' trace'
  rw [hfault] at hwalk
  rw [hfault'] at hother
  rw [hwalk, hother]
  exact .returned hle

/-- Two walks one after the other, on both sides. -/
theorem Related.join {first first' second second' : Walk ExceptionSet}
    (hfirst : Related (· ≤ ·) first first') (hsecond : Related (· ≤ ·) second second') :
    Related (· ≤ ·) (do let a ← first; let b ← second; return a ∪ b)
      (do let a ← first'; let b ← second'; return a ∪ b) :=
  hfirst.bind fun _ _ ha => hsecond.bind fun _ _ hb => .pure (sup_le_sup ha hb)

/-- Three walks one after the other, on both sides. -/
theorem Related.join₃ {first first' second second' third third' : Walk ExceptionSet}
    (hfirst : Related (· ≤ ·) first first') (hsecond : Related (· ≤ ·) second second')
    (hthird : Related (· ≤ ·) third third') :
    Related (· ≤ ·) (do let a ← first; let b ← second; let c ← third; return a ∪ b ∪ c)
      (do let a ← first'; let b ← second'; let c ← third'; return a ∪ b ∪ c) :=
  hfirst.bind fun _ _ ha => hsecond.bind fun _ _ hb => hthird.bind fun _ _ hc =>
    .pure (sup_le_sup (sup_le_sup ha hb) hc)

end Walk

open Walk

/-- The first contract may stand in for the second one. -/
def Covariant (contract contract' : Contract) : Prop :=
  contract.effective.isCovariant contract'.effective = true

/-- Two contexts of which the first has the narrower contracts, and which are alike otherwise. -/
structure Context.Narrows (narrow wide : Context) : Prop where
  /-- The contract of every function may stand in for the other one. -/
  covariant : ∀ key, Covariant (narrow.signatures.lookup key) (wide.signatures.lookup key)
  /-- Errors are reported for the same function. -/
  function_eq : narrow.function = wide.function
  /-- Errors are collected in both, or in neither. -/
  collecting_eq : narrow.collecting = wide.collecting

section TwoRuns

variable {narrow wide : Context}

/-- Handlers that differ in their blocks only catch the same. -/
theorem caught_eq_of_recontracted {related : Contract → Contract → Prop} {clause clause' : Clause}
    (h : RecontractedClause related clause clause') : caught clause = caught clause' := by
  cases h
  rfl

/-- Handlers that differ in their blocks only leave the less, the less there is. -/
theorem uncaught_le_of_recontracted {related : Contract → Contract → Prop}
    {clauses clauses' : List Clause} {effect effect' : ExceptionSet}
    (h : List.Forall₂ (RecontractedClause related) clauses clauses') (hle : effect ≤ effect') :
    uncaught effect clauses ≤ uncaught effect' clauses' := by
  have hcaught : clauses.map caught = clauses'.map caught := by
    rw [← List.forall₂_eq_eq_eq, List.forall₂_map_left_iff, List.forall₂_map_right_iff]
    exact h.imp fun _ _ => caught_eq_of_recontracted
  rw [uncaught_eq_sdiff, uncaught_eq_sdiff, hcaught]
  exact sdiff_le_sdiff_right hle

/-- A part that is left out on one side is left out on the other. -/
theorem related_optional {node node' : Node} (hnode : Recontracted Covariant node node')
    {walk walk' : Walk ExceptionSet} (hwalk : Related (· ≤ ·) walk walk') :
    Related (· ≤ ·) (optional node walk) (optional node' walk') := by
  cases hnode with
  | absent => exact .pure le_rfl
  | _ => exact hwalk

variable (h : narrow.Narrows wide)
include h

/-- A recoverable error is collected on both sides, or it stops both. -/
theorem related_report (problem : Problem) (span : Span) :
    Related (fun _ _ => True) (narrow.report problem span) (wide.report problem span) := by
  unfold Context.report
  rw [h.function_eq, h.collecting_eq]
  cases wide.collecting with
  | true => exact .modify _ _
  | false => exact .stop _

/-- A handler is checked alike on both sides. -/
theorem related_checkClause {clause clause' : Clause}
    (hclause : RecontractedClause Covariant clause clause') :
    Related (fun _ _ => True) (narrow.checkClause clause) (wide.checkClause clause') := by
  obtain @⟨type, binder, block, block', span, _⟩ := hclause
  cases type with
  | none => exact .pure trivial
  | some type =>
    cases href : type.isRef <;> cases hqualified : type.isQualified <;>
      simp only [Context.checkClause, Clause.type, Clause.span, href, hqualified, if_true, if_false,
        Bool.false_eq_true]
    · exact .pure trivial
    · exact related_report h _ _
    · exact (related_report h _ _).bind fun _ _ _ => .pure trivial
    · exact (related_report h _ _).bind fun _ _ _ => related_report h _ _

/-- Handlers are checked alike on both sides. -/
theorem related_forM_checkClause {clauses clauses' : List Clause}
    (hclauses : List.Forall₂ (RecontractedClause Covariant) clauses clauses') :
    Related (fun _ _ => True) (clauses.forM narrow.checkClause)
      (clauses'.forM wide.checkClause) := by
  induction hclauses with
  | nil => exact .pure trivial
  | cons hclause _ ih => exact (related_checkClause h hclause).bind fun _ _ _ => ih

/-- A throw without a type stops both walks, and otherwise it has the same effect on both sides. -/
theorem related_thrown (type : Option ValueType) (span : Span) :
    Related (· ≤ ·) (narrow.thrown type span) (wide.thrown type span) := by
  cases type with
  | none => exact .stop _
  | some type =>
    cases hplain : type.isPlain <;>
      simp only [Context.thrown, hplain, Bool.false_eq_true, if_true, if_false]
    · exact (related_report h _ _).bind fun _ _ _ => .pure le_rfl
    · exact .pure le_rfl

/-- The body of a `try` up to its handlers. -/
theorem related_guardedBody {body body' : Walk ExceptionSet} (hbody : Related (· ≤ ·) body body')
    {clauses clauses' : List Clause}
    (hclauses : List.Forall₂ (RecontractedClause Covariant) clauses clauses') :
    Related (· ≤ ·) (narrow.guardedBody body clauses) (wide.guardedBody body' clauses') := by
  unfold Context.guardedBody
  have htrace : Related (fun _ _ => True) Walk.trace Walk.trace := fun _ _ => .returned trivial
  refine htrace.bind fun _ _ _ => ?_
  refine hbody.bind fun effect effect' hle => ?_
  refine (related_forM_checkClause h hclauses).bind fun _ _ _ => ?_
  have hremaining := uncaught_le_of_recontracted hclauses hle
  -- Places may be forgotten on one side only, but that does not show in the result.
  cases (uncaught effect clauses).isUniversal <;> cases (uncaught effect' clauses').isUniversal <;>
    exact fun _ _ => .returned hremaining

end TwoRuns

mutual

/-- A walk through the narrower fragment ends like one through the wider fragment, with an effect
that is contained in the other one. -/
theorem related_infer {narrow wide : Context} (h : narrow.Narrows wide) {node node' : Node}
    (hnode : Recontracted Covariant node node')
    {handled handled' : Option ExceptionSet}
    (hhandled : handled.getD .universal ≤ handled'.getD .universal) :
    Related (· ≤ ·) (infer narrow node handled) (infer wide node' handled') := by
  cases node with
  | absent | misplaced | depths =>
    cases hnode
    rw [infer, infer]
    exact .stop _
  | literal | «variable» | leave | next =>
    cases hnode
    rw [infer, infer]
    exact .pure le_rfl
  | call callee args spelling span =>
    cases hnode with | call hargs =>
    cases callee with
    | none =>
      rw [infer, infer]
      exact .stop _
    | some key =>
      rw [infer, infer]
      refine (related_inferAll h hargs hhandled).join ?_
      exact .of_follows (called_follows narrow key args spelling span handled)
        (called_follows wide key args spelling span handled') rfl rfl
        (ExceptionSet.isCovariant_iff.mp (h.covariant key))
  | indirectCall callee contract args span =>
    cases hnode with | indirectCall hcallee hcontract hargs =>
    rw [infer, infer]
    refine (related_infer h hcallee hhandled).join₃ (related_inferAll h hargs hhandled) ?_
    exact .of_follows (calledThrough_follows narrow callee contract args span handled)
      (calledThrough_follows wide callee _ args span handled') rfl rfl
      (ExceptionSet.isCovariant_iff.mp hcontract)
  | construct type args span =>
    cases hnode with | construct hargs =>
    rw [infer, infer]
    exact related_inferAll h hargs hhandled
  | unary op operand span =>
    cases hnode with | unary hoperand =>
    rw [infer, infer]
    exact related_infer h hoperand hhandled
  | binary op left right span =>
    cases hnode with | binary hleft hright =>
    rw [infer, infer]
    exact (related_infer h hleft hhandled).join (related_infer h hright hhandled)
  | block statements span =>
    cases hnode with | block hstatements =>
    rw [infer, infer]
    exact related_inferAll h hstatements hhandled
  | eval expr span =>
    cases hnode with | eval hexpr =>
    rw [infer, infer]
    exact related_infer h hexpr hhandled
  | bind name value span =>
    cases hnode with | bind hvalue =>
    rw [infer, infer]
    exact related_optional hvalue (related_infer h hvalue hhandled)
  | ret value span =>
    cases hnode with | ret hvalue =>
    rw [infer, infer]
    exact related_optional hvalue (related_infer h hvalue hhandled)
  | throw value type span =>
    cases hnode with | throw hvalue =>
    rw [infer, infer]
    exact (related_infer h hvalue hhandled).join (related_thrown h type span)
  | rethrow span =>
    cases hnode
    rw [infer, infer]
    exact .of_follows (rethrown_follows narrow span handled) (rethrown_follows wide span handled')
      rfl rfl hhandled
  | branch condition whenTrue whenFalse span =>
    cases hnode with | branch hcondition htrue hfalse =>
    rw [infer, infer]
    exact (related_optional hcondition (related_infer h hcondition hhandled)).join₃
      (related_optional htrue (related_infer h htrue hhandled))
      (related_optional hfalse (related_infer h hfalse hhandled))
  | loop body condition init step span =>
    cases hnode with | loop hbody hcondition hinit hstep =>
    rw [infer, infer]
    refine (related_optional hinit (related_infer h hinit hhandled)).bind fun _ _ hstart => ?_
    exact (related_optional hcondition (related_infer h hcondition hhandled)).bind fun _ _ htest =>
      (related_optional hbody (related_infer h hbody hhandled)).bind fun _ _ hround =>
        (related_optional hstep (related_infer h hstep hhandled)).bind fun _ _ hadvance =>
          .pure (sup_le_sup (sup_le_sup (sup_le_sup hstart htest) hround) hadvance)
  | guarded body clauses span =>
    cases hnode with | guarded hbody hclauses =>
    -- The handlers get the same handled sets on both sides, whatever is handled outside.
    rw [infer_guarded, infer_guarded]
    exact (related_guardedBody h (related_infer h hbody hhandled) hclauses).join
      (related_inferHandlers h hclauses)
termination_by structural node

/-- Walks through several nodes, one by one. -/
theorem related_inferAll {narrow wide : Context} (h : narrow.Narrows wide)
    {nodes nodes' : List Node}
    (hnodes : List.Forall₂ (Recontracted Covariant) nodes nodes')
    {handled handled' : Option ExceptionSet}
    (hhandled : handled.getD .universal ≤ handled'.getD .universal) :
    Related (· ≤ ·) (inferAll narrow nodes handled) (inferAll wide nodes' handled') := by
  cases nodes with
  | nil =>
    cases hnodes
    rw [inferAll, inferAll]
    exact .pure le_rfl
  | cons node rest =>
    cases hnodes with | cons hnode hrest =>
    rw [inferAll, inferAll]
    exact (related_optional hnode (related_infer h hnode hhandled)).join
      (related_inferAll h hrest hhandled)
termination_by structural nodes

/-- Walks through several handlers, one by one. -/
theorem related_inferHandlers {narrow wide : Context} (h : narrow.Narrows wide)
    {clauses clauses' : List Clause}
    (hclauses : List.Forall₂ (RecontractedClause Covariant) clauses clauses') :
    Related (· ≤ ·) (inferHandlers narrow clauses) (inferHandlers wide clauses') := by
  cases clauses with
  | nil =>
    cases hclauses
    rw [inferHandlers, inferHandlers]
    exact .pure le_rfl
  | cons clause rest =>
    cases hclauses with | cons hclause hrest =>
    rw [inferHandlers, inferHandlers]
    exact (related_inferHandler h hclause).join (related_inferHandlers h hrest)
termination_by structural clauses

/-- Walks through a handler. -/
theorem related_inferHandler {narrow wide : Context} (h : narrow.Narrows wide)
    {clause clause' : Clause}
    (hclause : RecontractedClause Covariant clause clause') :
    Related (· ≤ ·) (inferHandler narrow clause) (inferHandler wide clause') := by
  obtain ⟨type, binder, block, span⟩ := clause
  cases hclause with | mk hblock =>
  rw [inferHandler, inferHandler]
  exact related_infer h hblock le_rfl
termination_by structural clause

end

end Throws.Effect

namespace Throws.Verification

open Throws.Body Throws.Effect Throws.Signature

/-- A function of a program before and after some contracts were narrowed. Only a bodyless
declaration of a function that is not defined may change, and only to a contract that may stand in
for the one before. -/
inductive NarrowedDeclaration (defined : List FunctionKey) : Function → Function → Prop
  | unchanged {function : Function} : NarrowedDeclaration defined function function
  | narrowed {function : Function} {specifier : Specifier} :
      function.body = none → function.key ∉ defined →
      Covariant specifier.meaning function.specifier.meaning →
      NarrowedDeclaration defined function { function with specifier := specifier }

/-- A program before and after contracts of functions without a body were narrowed. The functions
may be distributed over units in another way. -/
def NarrowedProgram (units units' : List SourceUnit) : Prop :=
  List.Forall₂ (NarrowedDeclaration ((units.flatMap (·.definitions)).map (·.key)))
    (units.flatMap (·.functions)) (units'.flatMap (·.functions))

/-- Some escape is reported. -/
def Report.Escapes (report : Report) : Prop :=
  ∃ diagnostic ∈ report.diagnostics, diagnostic.kind = .undeclaredEscape

namespace NarrowedDeclaration

variable {defined : List FunctionKey} {function function' : Function}
  {functions functions' : List Function}

theorem key_eq (h : NarrowedDeclaration defined function function') :
    function'.key = function.key := by
  cases h <;> rfl

theorem isDefinition_eq (h : NarrowedDeclaration defined function function') :
    function'.isDefinition = function.isDefinition := by
  cases h <;> rfl

/-- What is promised after narrowing may stand in for what was promised before. -/
theorem promised_le (h : NarrowedDeclaration defined function function') :
    promised function' ≤ promised function := by
  cases h with
  | unchanged => exact le_rfl
  | narrowed _ _ hcovariant => exact ExceptionSet.isCovariant_iff.mp hcovariant

/-- A function that is defined keeps its promise. -/
theorem promised_eq (h : NarrowedDeclaration defined function function')
    (hdefined : function.key ∈ defined) : promised function' = promised function := by
  cases h with
  | unchanged => rfl
  | narrowed _ hnot _ => exact absurd hdefined hnot

/-- Definitions stay as they are. -/
theorem filter_isDefinition_eq
    (h : List.Forall₂ (NarrowedDeclaration defined) functions functions') :
    functions'.filter (·.isDefinition) = functions.filter (·.isDefinition) := by
  induction h with
  | nil => rfl
  | cons hfunction _ ih =>
    cases hfunction with
    | unchanged => rw [List.filter_cons, List.filter_cons, ih]
    | narrowed hbody _ _ =>
      -- A declaration that changes is no definition, neither before nor after.
      simpa [Function.isDefinition, hbody] using ih

/-- If functions are related one by one, each of the first ones is related to one of the others. -/
theorem exists_counterpart {related : Function → Function → Prop}
    (h : List.Forall₂ related functions functions') (hmem : function ∈ functions) :
    ∃ function' ∈ functions', related function function' := by
  induction h with
  | nil => cases hmem
  | cons hfirst _ ih =>
    rcases List.mem_cons.mp hmem with rfl | hmem
    · exact ⟨_, List.mem_cons_self, hfirst⟩
    · obtain ⟨function', hmem', hrelated⟩ := ih hmem
      exact ⟨function', List.mem_cons_of_mem _ hmem', hrelated⟩

theorem exists_before (h : List.Forall₂ (NarrowedDeclaration defined) functions functions')
    (hmem : function' ∈ functions') :
    ∃ function ∈ functions, NarrowedDeclaration defined function function' :=
  exists_counterpart (List.Forall₂.flip (R := flip (NarrowedDeclaration defined)) h) hmem

/-- What settles a contract before settles it after. -/
theorem exists_settling (h : List.Forall₂ (NarrowedDeclaration defined) functions functions')
    (hmem : function ∈ settling functions) :
    ∃ function' ∈ settling functions', NarrowedDeclaration defined function function' := by
  obtain ⟨hfunction, hsettles⟩ := mem_settling_iff.mp hmem
  obtain ⟨function', hfunction', hnarrowed⟩ := exists_counterpart h hfunction
  refine ⟨function', mem_settling_iff.mpr ⟨hfunction', ?_⟩, hnarrowed⟩
  intro hdefinition other hother hbodyless
  obtain ⟨before, hbefore, hother⟩ := exists_before h hother
  rw [hother.key_eq, hnarrowed.key_eq]
  exact hsettles (hnarrowed.isDefinition_eq ▸ hdefinition) before hbefore
    (hother.isDefinition_eq ▸ hbodyless)

end NarrowedDeclaration

section Tables

variable {defined : List FunctionKey} {functions functions' : List Function} {table table' : Table}

/-- Callers reckon with no more after narrowing, and with the same of a function that is defined. -/
theorem effective_le_of_narrowed
    (h : List.Forall₂ (NarrowedDeclaration defined) functions functions')
    (hbuild : buildTable functions = (table, [])) (hbuild' : buildTable functions' = (table', []))
    (key : FunctionKey) :
    (table'.lookup key).effective ≤ (table.lookup key).effective ∧
      (key ∈ defined → (table'.lookup key).effective = (table.lookup key).effective) := by
  have hreflects := (reflects_buildTable (congrArg Prod.snd hbuild)).2
  have hreflects' := (reflects_buildTable (congrArg Prod.snd hbuild')).2
  rw [hbuild] at hreflects
  rw [hbuild'] at hreflects'
  by_cases hkey : key ∈ table.keys
  · obtain ⟨function, hsettling, rfl⟩ := hreflects.mem_keys_iff.mp hkey
    obtain ⟨function', hsettling', hnarrowed⟩ :=
      NarrowedDeclaration.exists_settling h hsettling
    have hbefore := hreflects.effective_eq function hsettling
    have hafter := hreflects'.effective_eq function' hsettling'
    rw [hnarrowed.key_eq] at hafter
    rw [hbefore, hafter]
    exact ⟨hnarrowed.promised_le, hnarrowed.promised_eq⟩
  · -- A function that is not declared before is not declared after, since all keys are kept.
    have hkey' : key ∉ table'.keys := by
      rw [mem_keys_buildTable_iff hbuild']
      rintro ⟨function', hmem, rfl⟩
      obtain ⟨function, hfunction, hnarrowed⟩ := NarrowedDeclaration.exists_before h hmem
      exact hkey ((mem_keys_buildTable_iff hbuild).mpr ⟨function, hfunction, hnarrowed.key_eq.symm⟩)
    rw [Table.lookup_of_not_mem hkey, Table.lookup_of_not_mem hkey']
    exact ⟨le_rfl, fun _ => rfl⟩

end Tables

/-- Narrower contracts of other functions introduce no escape in a definition. -/
theorem Report.Escapes.of_narrowed {depth : Option Nat} {signatures signatures' : Source}
    {function : Function} {report report' : Report}
    (hle : ∀ key, (signatures'.lookup key).effective ≤ (signatures.lookup key).effective)
    (hown : (signatures'.lookup function.key).effective =
      (signatures.lookup function.key).effective)
    (h : verifyFunction depth signatures function = .ok report)
    (h' : verifyFunction depth signatures' function = .ok report') (hescapes : report'.Escapes) :
    report.Escapes := by
  obtain ⟨diagnostic, hmem, hkind⟩ := hescapes
  obtain ⟨body, hbody⟩ := exists_body_of_undeclaredEscape h' hmem hkind
  obtain ⟨_, rfl⟩ := (verifyFunction_eq_ok_iff hbody).mp h
  obtain ⟨_, rfl⟩ := (verifyFunction_eq_ok_iff hbody).mp h'
  obtain ⟨hnot, _⟩ := mem_bodyReport_and_undeclaredEscape_iff.mp ⟨hmem, hkind⟩
  -- The effect shrinks and the contract that it is held against does not.
  have heffect : (bodySummary depth signatures' function.key body).effect ≤
      (bodySummary depth signatures function.key body).effect := effect_mono hle none _
  have hnot' : ¬ (bodySummary depth signatures function.key body).effect ⊆
      (signatures.lookup function.key).effective := fun hallowed =>
    hnot (hown ▸ le_trans heffect hallowed)
  obtain ⟨hreported, hkind⟩ := mem_bodyReport_and_undeclaredEscape_iff.mpr ⟨hnot', rfl⟩
  exact ⟨_, hreported, hkind⟩

/-- A report is about the function that was verified. -/
theorem function_of_verifyFunction {depth : Option Nat} {signatures : Source} {function : Function}
    {report : Report} (h : verifyFunction depth signatures function = .ok report) :
    report.function = function.key := by
  cases hbody : function.body with
  | none =>
    rw [verifyFunction_of_no_body hbody] at h
    cases h
    rfl
  | some body =>
    obtain ⟨_, rfl⟩ := (verifyFunction_eq_ok_iff hbody).mp h
    rfl

/-- Whether definitions can be analysed does not depend on contracts. -/
theorem exists_reports_of_verifyDefinitions {options : Options} {signatures : Source}
    {definitions : List Function} {reports : List Report}
    (h : verifyDefinitions options signatures definitions = .ok reports) (signatures' : Source) :
    ∃ reports', verifyDefinitions options signatures' definitions = .ok reports' := by
  cases h' : verifyDefinitions options signatures' definitions with
  | ok reports' => exact ⟨reports', rfl⟩
  | error malformed =>
    -- A defect in some body would show with the other contracts as well.
    have hdefect := (exists_hasDefect_iff options signatures' definitions).mpr ⟨malformed, h'⟩
    obtain ⟨_, herror⟩ := (exists_hasDefect_iff options signatures definitions).mp hdefect
    rw [h] at herror
    cases herror

/-- Narrowing contracts of functions without a body introduces no escape in any definition, and no
definition that could be analysed cannot be analysed any more. -/
theorem exists_result_of_narrowed {options : Options} {units units' : List SourceUnit}
    {result : Result} (hnarrowed : NarrowedProgram units units')
    (h : verifyProgram options units = .ok result) (hclean : result.tableDiagnostics = []) :
    ∃ result', verifyProgram options units' = .ok result' ∧
      ∀ (position : Nat) (report' : Report), result'.reports[position]? = some report' →
        report'.Escapes → ∃ report, result.reports[position]? = some report ∧
          report.function = report'.function ∧ report.Escapes := by
  rcases verifyProgram_cases h with ⟨hne, rfl⟩ | ⟨table, reports, hbuild, hreports, rfl⟩
  · exact absurd hclean hne
  by_cases hclean' : (buildTable (units'.flatMap (·.functions))).2 = []
  · have hbuild' : buildTable (units'.flatMap (·.functions)) = (_, []) := Prod.ext rfl hclean'
    have hcontracts := effective_le_of_narrowed hnarrowed hbuild hbuild'
    have hdefinitions : units'.flatMap (·.definitions) = units.flatMap (·.definitions) := by
      rw [flatMap_definitions, flatMap_definitions]
      exact NarrowedDeclaration.filter_isDefinition_eq hnarrowed
    obtain ⟨reports', hreports'⟩ := exists_reports_of_verifyDefinitions hreports
      (buildTable (units'.flatMap (·.functions))).1.source
    refine ⟨_, (verifyProgram_of_clean hbuild').trans (by rw [hdefinitions, hreports']; rfl),
      fun position report' hreport' hescapes => ?_⟩
    -- The reports on the definition at this position, with the contracts before and after.
    have hlength := (verifyDefinitions_eq_ok_iff.mp hreports').length_eq
    obtain ⟨hposition, _⟩ := List.getElem?_eq_some_iff.mp hreport'
    have hdefinition := List.getElem?_eq_getElem (hlength ▸ hposition)
    obtain ⟨_, hafter, hok'⟩ := getElem?_of_verifyDefinitions hreports' hdefinition
    obtain ⟨report, hbefore, hok⟩ := getElem?_of_verifyDefinitions hreports hdefinition
    cases hreport'.symm.trans hafter
    have hdefined := List.mem_map_of_mem (f := (·.key)) (List.mem_of_getElem? hdefinition)
    refine ⟨report, hbefore, ?_, hescapes.of_narrowed (fun key => ?_) ?_ hok hok'⟩
    · rw [function_of_verifyFunction hok, function_of_verifyFunction hok']
    · simpa using (hcontracts key).1
    · simpa using (hcontracts _).2 hdefined
  · -- Contracts that were narrowed need not agree any more, and then no body is looked at.
    refine ⟨_, verifyProgram_of_errors hclean', fun position report' hreport' => ?_⟩
    simp at hreport'

/-- Substituting functions with covariant contracts is safe for every caller. If the contracts of
all functions that may be called, the contracts at the calls through function values and the handled
set are covariant to the others, then a walk stops exactly if the other one does, for the same
reason, and otherwise its effect is contained in the other effect. So when contracts of functions
without a body are narrowed in a program whose declarations are in order and whose bodies can be
analysed, the bodies can still be analysed, and an escape is reported for a definition only if it
was before. -/
theorem covariant_substitution_is_safe :
    (∀ (narrow wide : Context) (node node' : Node) (handled handled' : Option ExceptionSet)
      (trace trace' : Trace), narrow.Narrows wide → Recontracted Covariant node node' →
      handled.getD .universal ⊆ handled'.getD .universal →
      let outcome := (infer narrow node handled trace).1
      let outcome' := (infer wide node' handled' trace').1
      ((∃ fault span, outcome = .error (.malformed fault span)) ↔
          ∃ fault span, outcome' = .error (.malformed fault span)) ∧
        (∀ reason, outcome = .error reason ↔ outcome' = .error reason) ∧
        ∀ effect, outcome = .ok effect → ∃ effect', outcome' = .ok effect' ∧ effect ⊆ effect') ∧
    ∀ (options : Options) (units units' : List SourceUnit) (result : Result),
      NarrowedProgram units units' → verifyProgram options units = .ok result →
      result.tableDiagnostics = [] →
      ∃ result', verifyProgram options units' = .ok result' ∧
        ∀ (position : Nat) (report' : Report), result'.reports[position]? = some report' →
          report'.Escapes → ∃ report, result.reports[position]? = some report ∧
            report.function = report'.function ∧ report.Escapes := by
  refine ⟨fun narrow wide node node' handled handled' trace trace' h hnode hhandled => ?_,
    fun options units units' result => exists_result_of_narrowed⟩
  intro outcome outcome'
  have hend : Walk.SameEnd (· ≤ ·) outcome outcome' := related_infer h hnode hhandled trace trace'
  generalize outcome = first at hend
  generalize outcome' = second at hend
  cases hend with
  | returned hle =>
    refine ⟨iff_of_false nofun nofun, fun reason => iff_of_false nofun nofun, ?_⟩
    rintro effect ⟨⟩
    exact ⟨_, rfl, hle⟩
  | stopped => exact ⟨Iff.rfl, fun reason => Iff.rfl, nofun⟩

/-- A fragment that calls `f` and a function value, and throws on what it handles:
`try { f(); callback(); } catch (A) { throw; }`. -/
def relay (contract : Contract) : Node :=
  .guarded
    (.block [.eval (.call (some { name := "f" }) [] none {}) {},
      .eval (.indirectCall (.variable "callback" {}) contract [] {}) {}] {})
    [.mk (some { name := "A" }) none (.block [.rethrow {}] {}) {}] {}

/-- Functions that call `f`, which is declared with the given types: `strict` is `noexcept`, and
`tolerant` handles `A` and is declared `throws(B)`. -/
def callersOf (types : List String) : List SourceUnit := [
  ⟨"a", [{ key := { name := "f" }, specifier := .throwing types false }]⟩,
  ⟨"b", [
    { key := { name := "strict" }, specifier := .nothrow,
      body := some (.eval (.call (some { name := "f" }) [] none {}) {}) },
    { key := { name := "tolerant" }, specifier := .throwing ["B"] false,
      body := some (.guarded (.eval (.call (some { name := "f" }) [] none {}) {})
        [.mk (some { name := "A" }) none (.block [] {}) {}] {}) }]⟩]

/-- With `f` and the function value narrowed from no contract and `throws(A, C)` to `throws(A, B)`
and `noexcept`, the effect of `relay` is `throws(A, B)` instead of unbounded. Narrowing `f` from
`throws(A, B)` to `throws(A)` in a program leaves `strict` the only definition with an escape. -/
theorem covariant_relay :
    let narrow : Context := { signatures := ⟨fun _ => some (.declared (.ofList ["A", "B"]))⟩ }
    let wide : Context := { signatures := .empty }
    (infer narrow (relay (.declared ∅)) none {}).1 = .ok (.ofList ["A", "B"]) ∧
      (∃ effect', (infer wide (relay (.declared (.ofList ["A", "C"]))) none {}).1 = .ok effect' ∧
        .ofList ["A", "B"] ⊆ effect') ∧
      ∃ result result' report, verifyProgram {} (callersOf ["A", "B"]) = .ok result ∧
        verifyProgram {} (callersOf ["A"]) = .ok result' ∧
        result'.reports.map (·.ok) = [false, true] ∧
        result.reports[0]? = some report ∧ report.Escapes := by
  intro narrow wide
  obtain ⟨hwalk, hprogram⟩ := covariant_substitution_is_safe
  have hcontexts : narrow.Narrows wide := ⟨fun key => rfl, rfl, rfl⟩
  have hnodes : Recontracted Covariant (relay (.declared ∅))
      (relay (.declared (.ofList ["A", "C"]))) :=
    .guarded
      (.block (.cons (.eval (.call .nil)) (.cons (.eval (.indirectCall .variable rfl .nil)) .nil)))
      (.cons (.mk (.block (.cons .rethrow .nil))) .nil)
  have hrun : (infer narrow (relay (.declared ∅)) none {}).1 = .ok (.ofList ["A", "B"]) := by rfl
  refine ⟨hrun, (hwalk narrow wide _ _ none none {} {} hcontexts hnodes rfl).2.2 _ hrun, ?_⟩
  have hnarrowed : NarrowedProgram (callersOf ["A", "B"]) (callersOf ["A"]) :=
    .cons (.narrowed rfl (by decide) rfl) (.cons .unchanged (.cons .unchanged .nil))
  obtain ⟨result, h, hclean⟩ : ∃ result, verifyProgram {} (callersOf ["A", "B"]) = .ok result ∧
      result.tableDiagnostics = [] := ⟨_, rfl, rfl⟩
  obtain ⟨result', h', hoks, report', hreport', hescapes⟩ :
      ∃ result', verifyProgram {} (callersOf ["A"]) = .ok result' ∧
        result'.reports.map (·.ok) = [false, true] ∧
        ∃ report', result'.reports[0]? = some report' ∧ report'.Escapes :=
    ⟨_, rfl, rfl, _, rfl, _, List.mem_singleton_self _, rfl⟩
  obtain ⟨_, hafter, hsafe⟩ := hprogram {} _ _ result hnarrowed h hclean
  cases h'.symm.trans hafter
  obtain ⟨report, hreport, _, hbefore⟩ := hsafe 0 report' hreport' hescapes
  exact ⟨result, result', report, h, h', hoks, hreport, hbefore⟩

end Throws.Verification
