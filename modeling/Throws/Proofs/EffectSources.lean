import Throws.Proofs.Summary

/-!
# The sources of an effect

Calls, throws and bare throws are the sources of exceptions. Inference works its way up from the
parts of a fragment, and takes away what the handlers of a `try` catch wherever it comes across
one. The result has a meaning that mentions no order and no nesting: every source contributes what
it throws itself, less what is caught by the handlers of all `try` statements around it.
-/

namespace Throws.Effect

open Throws.Body

/-- What a bare `throw;` throws at this place: what the innermost handler around it catches, or
outside of any handler the set that inference was started with. -/
def handledAt (handled : Option ExceptionSet) (occurrence : Occurrence) : Option ExceptionSet :=
  (occurrence.handler?.map caught).or handled

/-- What a source contributes to the effect of the whole fragment: what it throws itself, less what
any handler of a `try` around it catches. A node that is no source contributes nothing. -/
def contribution? (signatures : Signature.Source) (handled : Option ExceptionSet)
    (occurrence : Occurrence) : Option ExceptionSet :=
  (source? signatures (handledAt handled occurrence) occurrence.node).map
    (uncaught · occurrence.guards)

/-- Seen from further out, the innermost handler stays, and if there is none it may be the one just
left behind. -/
theorem handledAt_under (handled : Option ExceptionSet) (descent : Descent)
    (occurrence : Occurrence) :
    handledAt handled (occurrence.under descent) =
      handledAt (handledBelow descent handled) occurrence := by
  unfold handledAt handledBelow Occurrence.handler? Occurrence.under
  cases hdescent : descent.handler? with
  | none => simp [hdescent]
  | some clause =>
    rw [List.filterMap_cons_some hdescent, List.getLast?_cons]
    cases (occurrence.path.filterMap Descent.handler?).getLast? <;> rfl

/-- Seen from further out, a source contributes what gets through one more row of handlers. -/
theorem contribution?_under (signatures : Signature.Source) (handled : Option ExceptionSet)
    (descent : Descent) (occurrence : Occurrence) :
    contribution? signatures handled (occurrence.under descent) =
      (contribution? signatures (handledBelow descent handled) occurrence).map
        (uncaught · descent.guards) := by
  unfold contribution?
  rw [handledAt_under, Option.map_map]
  refine congrArg (Option.map · _) (funext fun set => ?_)
  have hguards : (occurrence.under descent).guards = descent.guards ++ occurrence.guards :=
    List.flatMap_cons
  rw [hguards, uncaught_append, uncaught_comm]
  rfl

/-- The effect of a node is what its sources contribute. -/
theorem effect_eq_unionAll_contributions (context : Context) (handled : Option ExceptionSet)
    (node : Node) :
    (context.summary handled node).effect =
      .unionAll (node.occurrences.filterMap (contribution? context.signatures handled)) := by
  refine Node.parts_induction (motive := fun node => ∀ handled,
    (context.summary handled node).effect =
      .unionAll (node.occurrences.filterMap (contribution? context.signatures handled)))
    (fun node ih handled => ?_) node handled
  -- What comes out of a part is the contributions from inside of it, seen from the node.
  have hpart : ∀ part ∈ node.parts,
      uncaught (context.summary (handledBelow part.1 handled) part.2).effect part.1.guards =
        .unionAll ((part.2.occurrences.map (Occurrence.under part.1)).filterMap
          (contribution? context.signatures handled)) := by
    intro part hmem
    rw [ih part hmem, uncaught_unionAll, List.map_filterMap, List.filterMap_map]
    refine congrArg _ (congrArg (List.filterMap · _) (funext fun occurrence => ?_))
    exact (contribution?_under _ _ _ occurrence).symm
  -- The node itself is a source without anything around it.
  have hown : (contribution? context.signatures handled ⟨[], node⟩) =
      source? context.signatures handled node :=
    Option.map_id'
  rw [Context.effect_summary, List.map_congr_left hpart, Node.occurrences_eq, List.filterMap_cons,
    hown, List.filterMap_flatMap]
  cases source? context.signatures handled node with
  | none =>
    rw [ExceptionSet.unionAll_flatMap]
    exact bot_sup_eq _
  | some own =>
    change own ∪ _ = ExceptionSet.unionAll (own :: _)
    rw [ExceptionSet.unionAll_cons, ExceptionSet.unionAll_flatMap]

/-- Whenever inference returns a set, that set is the union of what the sources inside the fragment
contribute, each by itself. -/
theorem infer_eq_unionAll_contributions {signatures : Signature.Source}
    {function : Option FunctionKey} {node : Node} {handled : Option ExceptionSet}
    {trace after : Trace} {effect : ExceptionSet}
    (h : infer { signatures := signatures, function := function } node handled trace =
      (.ok effect, after)) :
    effect = .unionAll (node.occurrences.filterMap (contribution? signatures handled)) := by
  have heffect := (eq_summary_of_infer_eq_ok rfl h).2
  rw [heffect]
  exact effect_eq_unionAll_contributions _ handled node

/-- A call and a bare `throw;` in the body of a `try`, beside an inner `try` whose handler throws
something else. Of the outer handlers one drops what it catches and one throws it again:
`try { f(); throw; try { throw B; } catch (B) { throw E; } } catch (A) { } catch (C) { throw; }`. -/
def nestedTry : Node :=
  .guarded (.block [
      .eval (.call (some { name := "f" }) [] none {}) {},
      .rethrow {},
      .guarded (.block [.throw (.literal (.int 1) {}) (some { name := "B" }) {}] {})
        [.mk (some { name := "B" }) none
          (.block [.throw (.literal (.int 2) {}) (some { name := "E" }) {}] {}) {}] {}] {})
    [.mk (some { name := "A" }) none (.block [] {}) {},
      .mk (some { name := "C" }) none (.block [.rethrow {}] {}) {}] {}

/-- With `f` declared `throws(A, C)` and `D` being handled outside, only `C`, `D` and `E` escape
from `nestedTry`. The call and the `throw B` contribute nothing, since all that they throw is
caught. -/
theorem infer_nestedTry :
    let signatures : Signature.Source := ⟨fun _ => some (.declared (.ofList ["A", "C"]))⟩
    let effect := ExceptionSet.ofList ["C", "D", "E"]
    infer { signatures := signatures } nestedTry (some (.single "D")) {} = (.ok effect, {}) ∧
      effect = .unionAll (nestedTry.occurrences.filterMap
        (contribution? signatures (some (.single "D")))) ∧
      nestedTry.occurrences.filterMap (contribution? signatures (some (.single "D"))) =
        [∅, .single "D", ∅, .single "E", .single "C"] := by
  intro signatures effect
  have h : infer { signatures := signatures } nestedTry (some (.single "D")) {} =
      (.ok effect, {}) := by rfl
  exact ⟨h, infer_eq_unionAll_contributions h, by decide +kernel⟩

end Throws.Effect
