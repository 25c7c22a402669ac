import Throws.Proofs.DefinitionReport
import Throws.Proofs.EffectSources

/-!
# The places of unbounded effect

A walk notes the place of every effect that is unbounded as soon as it comes across it, and forgets
the places inside the body of a `try` when the handlers leave nothing unbounded. What remains has a
meaning that mentions no such bookkeeping: it is the places of all unbounded sources, in the order
of the walk, but for those in the body of some `try` that catches everything.

The invariant behind this is `sites_ne_nil_iff`: there are places exactly if the effect is
unbounded. It holds of every fragment, so a `try` that forgets places although it does not catch
everything has none to forget. It is also why an escape of just anything always comes with a note.
-/

namespace Throws.Effect

open Throws.Body

/-- Whether what a node throws itself is unbounded. `handled` is what the innermost handler around
the node catches; outside of any handler a bare `throw;` may throw anything. -/
def isUnbounded (signatures : Signature.Source) (handled : Option ExceptionSet) : Node → Bool
  | .call (some key) _ _ _ => (signatures.lookup key).effective.isUniversal
  | .indirectCall _ contract _ _ => contract.effective.isUniversal
  | .rethrow _ => handled.all (·.isUniversal)
  | _ => false

/-- Whether an occurrence is an unbounded source and does not lie in the body of a `try` that
catches everything. -/
def isOpen (signatures : Signature.Source) (handled : Option ExceptionSet)
    (occurrence : Occurrence) : Bool :=
  !occurrence.guards.any (·.catchesAll)
    && isUnbounded signatures (handledAt handled occurrence) occurrence.node

/-- What is noted of an unbounded source: where it stands, which function it calls, and in words why
nothing bounds it. -/
inductive NotedAs (signatures : Signature.Source) (handled : Option ExceptionSet) :
    Node → Site → Prop
  /-- A call of a function without a contract. -/
  | unannotated {key : FunctionKey} {args : List Node} {spelling : Option String} {span : Span} :
      (signatures.lookup key).isDeclared = false →
      NotedAs signatures handled (.call (some key) args spelling span) {
        reason := "call to unannotated function " ++ key.symbol
        span := span
        callee := some key }
  /-- A call of a function whose contract lists `...`. -/
  | declared {key : FunctionKey} {args : List Node} {spelling : Option String} {span : Span} :
      (signatures.lookup key).isDeclared = true →
      NotedAs signatures handled (.call (some key) args spelling span) {
        reason := "call to " ++ key.symbol ++ " declared throws(...)"
        span := span
        callee := some key }
  /-- A call through a function value, which has no key. -/
  | value {callee : Node} {contract : Contract} {args : List Node} {span : Span} :
      NotedAs signatures handled (.indirectCall callee contract args span) {
        reason := "call through a function value without a bounded contract"
        span := span
        callee := none }
  /-- A bare `throw;` that lies in no handler. -/
  | outside {span : Span} : handled = none → NotedAs signatures handled (.rethrow span) {
      reason := "rethrow outside of a catch handler"
      span := span
      callee := none }
  /-- A bare `throw;` in a handler. -/
  | inside {span : Span} : handled.isSome = true → NotedAs signatures handled (.rethrow span) {
      reason := "rethrow inside catch (...)"
      span := span
      callee := none }

/-- The place that a walk notes of what a node throws itself, if that is unbounded. -/
def site? (signatures : Signature.Source) (handled : Option ExceptionSet) : Node → Option Site
  | .call (some key) _ _ span =>
    let contract := signatures.lookup key
    if contract.effective.isUniversal then some (callSite contract key span) else none
  | .indirectCall _ contract _ span =>
    if contract.effective.isUniversal then some (valueCallSite span) else none
  | .rethrow span =>
    if handled.all (·.isUniversal) then some (rethrowSite handled span) else none
  | _ => none

/-- The place that a walk keeps of an unbounded source, unless it lies in the body of a `try` that
catches everything. -/
def openSite? (signatures : Signature.Source) (handled : Option ExceptionSet)
    (occurrence : Occurrence) : Option Site :=
  if occurrence.guards.any (·.catchesAll) then none
  else site? signatures (handledAt handled occurrence) occurrence.node

/-- Every place is noted of an unbounded source, as it is to be. -/
theorem site?_cases (signatures : Signature.Source) (handled : Option ExceptionSet) (node : Node) :
    isUnbounded signatures handled node = false ∧ site? signatures handled node = none ∨
      isUnbounded signatures handled node = true ∧
        ∃ site, site? signatures handled node = some site ∧
          NotedAs signatures handled node site := by
  cases node with
  | call callee args spelling span =>
    cases callee with
    | none => exact .inl ⟨rfl, rfl⟩
    | some key =>
      simp only [site?, isUnbounded]
      cases (signatures.lookup key).effective.isUniversal with
      | false => exact .inl ⟨rfl, rfl⟩
      | true =>
        refine .inr ⟨rfl, _, rfl, ?_⟩
        -- The words depend on whether there is a contract at all.
        cases hdeclared : (signatures.lookup key).isDeclared with
        | false =>
          rw [callSite, hdeclared]
          exact .unannotated hdeclared
        | true =>
          rw [callSite, hdeclared]
          exact .declared hdeclared
  | indirectCall callee contract args span =>
    simp only [site?, isUnbounded]
    cases contract.effective.isUniversal with
    | false => exact .inl ⟨rfl, rfl⟩
    | true => exact .inr ⟨rfl, _, rfl, .value⟩
  | rethrow span =>
    cases handled with
    | none => exact .inr ⟨rfl, _, rfl, .outside rfl⟩
    | some set =>
      cases set with
      | universal => exact .inr ⟨rfl, _, rfl, .inside rfl⟩
      | finite _ => exact .inl ⟨rfl, rfl⟩
  | _ => exact .inl ⟨rfl, rfl⟩

/-- The places that a walk keeps are noted of the open occurrences, one of each. -/
theorem notedAs_filterMap_openSite? (signatures : Signature.Source) (handled : Option ExceptionSet)
    (occurrences : List Occurrence) :
    List.Forall₂ (fun occurrence site =>
        NotedAs signatures (handledAt handled occurrence) occurrence.node site)
      (occurrences.filter (isOpen signatures handled))
      (occurrences.filterMap (openSite? signatures handled)) := by
  induction occurrences with
  | nil => exact .nil
  | cons occurrence rest ih =>
    cases hcaught : occurrence.guards.any (·.catchesAll) with
    | true => simpa [List.filter_cons, List.filterMap_cons, isOpen, openSite?, hcaught] using ih
    | false =>
      rcases site?_cases signatures (handledAt handled occurrence) occurrence.node with
        ⟨hbounded, hsite⟩ | ⟨hunbounded, site, hsite, hnoted⟩
      · simpa [List.filter_cons, List.filterMap_cons, isOpen, openSite?, hcaught, hbounded, hsite]
          using ih
      · simpa [List.filter_cons, List.filterMap_cons, isOpen, openSite?, hcaught, hunbounded, hsite]
          using ⟨hnoted, ih⟩

/-- Seen from further out, a place may be absorbed by one more row of handlers. -/
theorem openSite?_under (signatures : Signature.Source) (handled : Option ExceptionSet)
    (descent : Descent) (occurrence : Occurrence) :
    openSite? signatures handled (occurrence.under descent) =
      if descent.guards.any (·.catchesAll) then none
      else openSite? signatures (handledBelow descent handled) occurrence := by
  have hguards : (occurrence.under descent).guards = descent.guards ++ occurrence.guards :=
    List.flatMap_cons
  rw [openSite?, openSite?, hguards, List.any_append, handledAt_under]
  cases descent.guards.any (·.catchesAll) <;> rfl

/-- A bare `throw;` throws anything if nothing is handled or just anything is. -/
theorem isUniversal_getD (handled : Option ExceptionSet) :
    (handled.getD .universal).isUniversal = handled.all (·.isUniversal) := by
  cases handled <;> rfl

/-- A node marks its place exactly if what it throws itself is unbounded. -/
theorem isSome_site? (signatures : Signature.Source) (handled : Option ExceptionSet) (node : Node) :
    (site? signatures handled node).isSome =
      ((source? signatures handled node).getD ∅).isUniversal := by
  cases node with
  | call callee args spelling span =>
    cases callee with
    | none => rfl
    | some key =>
      simp only [site?, source?, Option.getD_some]
      cases (signatures.lookup key).effective.isUniversal <;> rfl
  | indirectCall callee contract args span =>
    simp only [site?, source?, Option.getD_some]
    cases contract.effective.isUniversal <;> rfl
  | throw value type span => cases type <;> rfl
  | rethrow span =>
    simp only [site?, source?, Option.getD_some, isUniversal_getD]
    cases handled.all (·.isUniversal) <;> rfl
  | _ => rfl

namespace Context

variable (context : Context)

/-- What a node adds itself has the place of the node. -/
theorem sites_own (handled : Option ExceptionSet) (node : Node) :
    (context.own handled node).sites = (site? context.signatures handled node).toList := by
  cases node with
  | call callee args spelling span =>
    cases callee with
    | none => rfl
    | some key =>
      simp only [own, unboundedAt, site?]
      split <;> rfl
  | indirectCall callee contract args span =>
    simp only [own, unboundedAt, site?]
    split <;> rfl
  | throw value type span => cases type <;> rfl
  | rethrow span =>
    simp only [own, unboundedAt, site?, isUniversal_getD]
    split <;> rfl
  | _ => rfl

/-- The places of a node are those seen of its parts, and then its own. -/
theorem sites_summary (handled : Option ExceptionSet) (node : Node) :
    (context.summary handled node).sites = (node.parts.flatMap fun part =>
        (context.through (context.summary (handledBelow part.1 handled) part.2) part.1).sites)
      ++ (site? context.signatures handled node).toList := by
  have hentry : (entry node).sites = [] := by
    cases node with
    | call callee args spelling span => cases callee <;> rfl
    | _ => rfl
  rw [summary_eq, Summary.sites_append, Summary.sites_append, hentry, List.nil_append,
    Summary.sites_concat, List.flatMap_map, sites_own]

/-- The effect of a node is unbounded if the node itself or what gets through from a part is. -/
theorem isUniversal_effect_iff (handled : Option ExceptionSet) (node : Node) :
    (context.summary handled node).effect.isUniversal = true ↔
      (site? context.signatures handled node).isSome = true ∨ ∃ part ∈ node.parts,
        (uncaught (context.summary (handledBelow part.1 handled) part.2).effect
          part.1.guards).isUniversal = true := by
  rw [effect_summary, ExceptionSet.isUniversal_union, ← isSome_site?,
    ExceptionSet.isUniversal_unionAll, Bool.or_eq_true, List.any_map, List.any_eq_true]
  rfl

/-- Of a part whose places tell whether its effect is unbounded, the places are seen unless it is
guarded by handlers that catch everything. -/
theorem sites_through {part : Summary}
    (h : part.sites ≠ [] ↔ part.effect.isUniversal = true) (descent : Descent) :
    (context.through part descent).sites =
      if descent.guards.any (·.catchesAll) then [] else part.sites := by
  cases descent with
  | guarded clauses =>
    change (if (uncaught part.effect clauses).isUniversal then part.sites else []) =
      if clauses.any (·.catchesAll) then [] else part.sites
    rw [isUniversal_uncaught]
    cases hall : clauses.any (·.catchesAll) with
    | true => simp
    | false =>
      -- A bounded effect has no places, so none are lost.
      cases huniversal : part.effect.isUniversal with
      | true => simp
      | false =>
        have hnil : part.sites = [] := by
          by_contra hne
          rw [h.mp hne] at huniversal
          cases huniversal
        simp [hnil]
  | _ => rfl

/-- There are places of unbounded effect exactly if the effect is unbounded. -/
theorem sites_ne_nil_iff (handled : Option ExceptionSet) (node : Node) :
    (context.summary handled node).sites ≠ [] ↔
      (context.summary handled node).effect.isUniversal = true := by
  refine Node.parts_induction (motive := fun node => ∀ handled,
    (context.summary handled node).sites ≠ [] ↔
      (context.summary handled node).effect.isUniversal = true)
    (fun node ih handled => ?_) node handled
  have hpart : ∀ part ∈ node.parts,
      (context.through (context.summary (handledBelow part.1 handled) part.2) part.1).sites ≠ [] ↔
        (uncaught (context.summary (handledBelow part.1 handled) part.2).effect
          part.1.guards).isUniversal = true := by
    intro part hmem
    have hbelow := ih part hmem (handledBelow part.1 handled)
    rw [sites_through context hbelow, isUniversal_uncaught, Bool.and_eq_true, ← hbelow]
    cases part.1.guards.any (·.catchesAll) <;> simp
  rw [sites_summary, isUniversal_effect_iff, ne_eq, List.append_eq_nil_iff, not_and_or, or_comm,
    List.flatMap_eq_nil_iff]
  refine or_congr ?_ ?_
  · cases site? context.signatures handled node <;> simp
  · push Not
    exact exists_congr fun part => and_congr_right (hpart part)

/-- The places that a walk leaves behind are those of the unbounded sources that no `try` absorbs,
in the order in which the walk is done with them. -/
theorem sites_eq_filterMap_openSite? (handled : Option ExceptionSet) (node : Node) :
    (context.summary handled node).sites =
      node.postorder.filterMap (openSite? context.signatures handled) := by
  refine Node.parts_induction (motive := fun node => ∀ handled,
    (context.summary handled node).sites =
      node.postorder.filterMap (openSite? context.signatures handled))
    (fun node ih handled => ?_) node handled
  have hpart : ∀ part ∈ node.parts,
      (context.through (context.summary (handledBelow part.1 handled) part.2) part.1).sites =
        (part.2.postorder.map (Occurrence.under part.1)).filterMap
          (openSite? context.signatures handled) := by
    intro part hmem
    have hunder : openSite? context.signatures handled ∘ Occurrence.under part.1 = _ :=
      funext (openSite?_under context.signatures handled part.1)
    rw [sites_through context (sites_ne_nil_iff context _ part.2), ih part hmem, List.filterMap_map,
      hunder]
    cases part.1.guards.any (·.catchesAll) with
    | true => simp
    | false => rfl
  -- The node itself lies in no `try`.
  have hself : [(⟨[], node⟩ : Occurrence)].filterMap (openSite? context.signatures handled) =
      (site? context.signatures handled node).toList := rfl
  rw [sites_summary, Node.postorder_eq, List.filterMap_append, List.filterMap_flatMap, hself,
    List.flatMap_congr hpart]

end Context

end Throws.Effect

namespace Throws.Verification

open Throws.Body Throws.Effect Throws.Signature

section Escapes

variable {depth : Option Nat} {signatures : Source} {function : Function} {report : Report}
  (h : verifyFunction depth signatures function = .ok report)

include h

/-- An escape of just anything comes with at least one note. -/
theorem notes_ne_nil_of_escaping_universal {diagnostic : Diagnostic}
    (hmem : diagnostic ∈ report.diagnostics) (hkind : diagnostic.kind = .undeclaredEscape)
    (hescaping : diagnostic.escaping = some .universal) : diagnostic.notes ≠ [] := by
  obtain ⟨body, hbody⟩ := exists_body_of_undeclaredEscape h hmem hkind
  obtain ⟨_, rfl⟩ := (verifyFunction_eq_ok_iff hbody).mp h
  obtain ⟨_, rfl⟩ := mem_bodyReport_and_undeclaredEscape_iff.mp ⟨hmem, hkind⟩
  let summary := bodySummary depth signatures function.key body
  let allowed := (signatures.lookup function.key).effective
  have huniversal : (summary.effect \ allowed).isUniversal = true := by
    rw [Option.some.inj hescaping]
    rfl
  have hsites : summary.sites ≠ [] := by
    -- What is left of the effect is unbounded only if the effect is.
    rw [ExceptionSet.isUniversal_sdiff, Bool.and_eq_true] at huniversal
    exact (Context.sites_ne_nil_iff _ none _).mpr huniversal.1
  change (if (summary.effect \ allowed).isUniversal then
    summary.sites.map ("unbounded: " ++ ·.describe) else []) ≠ []
  rw [if_pos huniversal, ne_eq, List.map_eq_nil_iff]
  exact hsites

/-- An unbounded effect that the contract does not allow is reported as such. -/
theorem exists_escaping_universal (heffect : report.effect = some .universal)
    (hallowed : (signatures.lookup function.key).effective.isUniversal = false) :
    ∃ diagnostic ∈ report.diagnostics, diagnostic.kind = .undeclaredEscape ∧
      diagnostic.escaping = some .universal := by
  cases hbody : function.body with
  | none =>
    rw [verifyFunction_of_no_body hbody] at h
    cases h
    cases heffect
  | some body =>
    obtain ⟨_, rfl⟩ := (verifyFunction_eq_ok_iff hbody).mp h
    have huniversal : (bodySummary depth signatures function.key body).effect = .universal :=
      Option.some.inj heffect
    -- Nothing is taken away from an unbounded effect by a bounded contract.
    have hescaping : ExceptionSet.universal \ (signatures.lookup function.key).effective =
        .universal := by
      rw [← ExceptionSet.isUniversal_iff, ExceptionSet.isUniversal_sdiff, hallowed]
      rfl
    have hnot : ¬ ExceptionSet.universal ⊆ (signatures.lookup function.key).effective := by
      intro hsubset
      have hempty : ExceptionSet.universal \ _ = ⊥ := sdiff_eq_bot_iff.mpr hsubset
      rw [hescaping] at hempty
      cases hempty
    have hreported := mem_bodyReport_and_undeclaredEscape_iff.mpr
      ⟨huniversal.symm ▸ hnot, rfl⟩
    refine ⟨_, hreported.1, hreported.2, ?_⟩
    change some (_ \ _) = _
    rw [huniversal, hescaping]

end Escapes

/-- A walk that returns keeps the places noted before it. It adds one for each unbounded source that
no `try` around it absorbs, in the order of the walk: with the span of that source, and with the key
of the function called there. There are any exactly if the effect is unbounded.

So every escape of just anything comes with at least one note, and wherever a bounded contract is
broken by an unbounded effect there is such an escape in the report. -/
theorem sites_infer_exact (signatures : Source) :
    (∀ (function : Option FunctionKey) (node : Node) (handled : Option ExceptionSet)
      (trace after : Trace) (effect : ExceptionSet),
      infer { signatures := signatures, function := function } node handled trace =
        (.ok effect, after) →
      ∃ added, after.sites = trace.sites ++ added ∧
        List.Forall₂ (fun occurrence site =>
            NotedAs signatures (handledAt handled occurrence) occurrence.node site)
          (node.postorder.filter (isOpen signatures handled)) added ∧
        (added ≠ [] ↔ effect = .universal)) ∧
    ∀ (depth : Option Nat) (function : Function) (report : Report),
      verifyFunction depth signatures function = .ok report →
      (∀ diagnostic ∈ report.diagnostics, diagnostic.kind = .undeclaredEscape →
        diagnostic.escaping = some .universal → diagnostic.notes ≠ []) ∧
      (report.effect = some .universal →
        (signatures.lookup function.key).effective.isUniversal = false →
        ∃ diagnostic ∈ report.diagnostics, diagnostic.kind = .undeclaredEscape ∧
          diagnostic.escaping = some .universal) := by
  refine ⟨fun function node handled trace after effect h => ?_, fun depth function report h =>
    ⟨fun diagnostic => notes_ne_nil_of_escaping_universal h, exists_escaping_universal h⟩⟩
  let context : Context := { signatures := signatures, function := function }
  obtain ⟨_, rfl, rfl⟩ := (infer_eq_ok_iff rfl).mp h
  refine ⟨(context.summary handled node).sites, rfl, ?_, ?_⟩
  · rw [context.sites_eq_filterMap_openSite?]
    exact notedAs_filterMap_openSite? signatures handled node.postorder
  · rw [← ExceptionSet.isUniversal_iff]
    exact context.sites_ne_nil_iff handled node

/-- A call inside a call under a handler for `A`, and a call under a handler that catches everything
and throws it again:
`try { f(g()); } catch (A) { } try { h(); } catch (...) { throw; }`. -/
def partlyAbsorbed : Node :=
  .block [
    .guarded
      (.eval (.call (some { name := "f" })
        [.call (some { name := "g" }) [] none ⟨"m", some 1, some 9⟩] none
        ⟨"m", some 1, some 7⟩) ⟨"m", some 1, some 7⟩)
      [.mk (some { name := "A" }) none (.block [] ⟨"m", some 1, some 27⟩)
        ⟨"m", some 1, some 17⟩] ⟨"m", some 1, some 1⟩,
    .guarded (.eval (.call (some { name := "h" }) [] none ⟨"m", some 1, some 37⟩)
        ⟨"m", some 1, some 37⟩)
      [.mk none none (.block [.rethrow ⟨"m", some 1, some 58⟩] ⟨"m", some 1, some 56⟩)
        ⟨"m", some 1, some 44⟩] ⟨"m", some 1, some 31⟩] ⟨"m", some 1, some 1⟩

/-- None of the functions called has a contract. After a place noted earlier, `partlyAbsorbed` adds
the call of `g`, the call of `f` and the bare `throw;`, but not the call of `h`. As the body of a
function that is `noexcept` it is reported for an escape with notes. -/
theorem sites_partlyAbsorbed :
    let main : Function := { key := { name := "main" }, body := some partlyAbsorbed }
    let signatures : Source := ⟨fun key => if key = main.key then some (.declared ∅) else none⟩
    let earlier : Site := { reason := "rethrow outside of a catch handler" }
    let added : List Site := [
      { reason := "call to unannotated function void g()"
        span := ⟨"m", some 1, some 9⟩
        callee := some { name := "g" } },
      { reason := "call to unannotated function void f()"
        span := ⟨"m", some 1, some 7⟩
        callee := some { name := "f" } },
      { reason := "rethrow inside catch (...)"
        span := ⟨"m", some 1, some 58⟩
        callee := none }]
    let diagnostic := (Problem.escape (.declared ∅) .universal added).report main
    let report : Report := {
      function := main.key, effect := some .universal, diagnostics := [diagnostic] }
    infer { signatures := signatures } partlyAbsorbed none ⟨[], [earlier]⟩ =
        (.ok .universal, ⟨[], earlier :: added⟩) ∧
      List.Forall₂ (fun occurrence site =>
          NotedAs signatures (handledAt none occurrence) occurrence.node site)
        (partlyAbsorbed.postorder.filter (isOpen signatures none)) added ∧
      verifyFunction none signatures main = .ok report ∧ diagnostic.notes ≠ [] := by
  intro main signatures earlier added diagnostic report
  have h : infer { signatures := signatures } partlyAbsorbed none ⟨[], [earlier]⟩ =
      (.ok .universal, ⟨[], earlier :: added⟩) := by rfl
  have hreport : verifyFunction none signatures main = .ok report := by rfl
  obtain ⟨hwalk, hverified⟩ := sites_infer_exact signatures
  obtain ⟨noted, hsites, hnoted, _⟩ := hwalk none partlyAbsorbed none _ _ _ h
  obtain rfl := (List.cons.inj hsites).2
  exact ⟨h, hnoted, hreport,
    (hverified none main report hreport).1 diagnostic (List.mem_singleton_self _) rfl rfl⟩

end Throws.Verification
