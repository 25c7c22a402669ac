import Throws.Proofs.Defects
import Throws.Proofs.DefinitionReport

/-!
# What the verification of a definition depends on

To verify a definition is to look at its own text and at the contracts of a few functions: its own
contract, and those of the functions that its body calls by name. These functions are its concerns.
Two sources of contracts that agree on them lead to the same outcome, be it a report or the first
defect in the body (`verifyFunction_congr`). A limit on the depth does not change a report either
(`verifyFunction_none_of_ok`).
-/

namespace Throws.Body

/-- The function that a node calls by name, if it is a call and its target is known. -/
def Node.callee? : Node → Option FunctionKey
  | .call callee _ _ _ => callee
  | _ => none

/-- The functions that are called by name somewhere in a fragment. -/
def Node.callees (node : Node) : List FunctionKey :=
  node.occurrences.filterMap (·.node.callee?)

/-- A node calls what it calls itself and what its parts call. -/
theorem Node.callees_eq (node : Node) :
    node.callees = node.callee?.toList ++ node.parts.flatMap (·.2.callees) := by
  have hunder : ∀ part : Descent × Node,
      (part.2.occurrences.map (Occurrence.under part.1)).filterMap (·.node.callee?) =
        part.2.callees := fun part => List.filterMap_map
  rw [callees, occurrences_eq, List.filterMap_cons, List.filterMap_flatMap]
  simp only [hunder]
  cases node.callee? <;> rfl

/-- The functions whose contracts matter to a function: itself and those that its body calls. -/
def Function.concerns (function : Function) : List FunctionKey :=
  function.key :: function.body.elim [] Node.callees

end Throws.Body

namespace Throws.Effect

open Throws.Body

namespace Context

variable {context other : Context}

/-- What a node adds itself depends on the contract of the function that it calls. -/
theorem own_congr (hfunction : context.function = other.function) {node : Node}
    (h : ∀ key, node.callee? = some key →
      context.signatures.lookup key = other.signatures.lookup key)
    (handled : Option ExceptionSet) : context.own handled node = other.own handled node := by
  cases node with
  | call callee args spelling span =>
    cases callee with
    | none => rfl
    | some key =>
      simp only [own]
      rw [h key rfl]
  | throw value type span =>
    cases type with
    | none => rfl
    | some type =>
      simp only [own]
      rw [hfunction]
  | _ => rfl

/-- What is seen of a part does not depend on contracts. -/
theorem through_congr (hfunction : context.function = other.function) (part : Summary)
    (descent : Descent) : context.through part descent = other.through part descent := by
  cases descent with
  | guarded clauses =>
    have hproblems : context.clauseProblems = other.clauseProblems := by
      funext clause
      rw [clauseProblems, clauseProblems, hfunction]
    simp only [through, hproblems]
  | _ => rfl

/-- What a walk comes to depends on the contracts of the functions that are called on the way. -/
theorem summary_congr (hfunction : context.function = other.function) {node : Node}
    (h : ∀ key ∈ node.callees, context.signatures.lookup key = other.signatures.lookup key)
    (handled : Option ExceptionSet) :
    context.summary handled node = other.summary handled node := by
  -- What a part calls the node calls too, so the agreement is handed down.
  refine Node.parts_induction (motive := fun node =>
    (∀ key ∈ node.callees, context.signatures.lookup key = other.signatures.lookup key) →
      ∀ handled, context.summary handled node = other.summary handled node)
    (fun node ih h handled => ?_) node h handled
  rw [Node.callees_eq] at h
  have hparts : (node.parts.map fun part =>
        context.through (context.summary (handledBelow part.1 handled) part.2) part.1) =
      node.parts.map fun part =>
        other.through (other.summary (handledBelow part.1 handled) part.2) part.1 := by
    refine List.map_congr_left fun part hpart => ?_
    have hbelow := ih part hpart fun key hkey =>
      h key (List.mem_append_right _ (List.mem_flatMap.mpr ⟨part, hpart, hkey⟩))
    rw [hbelow, through_congr hfunction]
  have hown : context.own handled node = other.own handled node :=
    own_congr hfunction (fun key hkey => h key (List.mem_append_left _ (by simp [hkey]))) handled
  rw [summary_eq, summary_eq, hparts, hown]

end Context

end Throws.Effect

namespace Throws.Verification

open Throws.Body Throws.Effect Throws.Signature

variable {depth : Option Nat} {signatures signatures' : Source} {function : Function}

/-- A limit on the depth does not change a report. -/
theorem verifyFunction_none_of_ok {report : Report}
    (h : verifyFunction depth signatures function = .ok report) :
    verifyFunction none signatures function = .ok report := by
  cases hbody : function.body with
  | none => rwa [verifyFunction_of_no_body hbody] at h ⊢
  | some body =>
    -- There is a report, so the walk has not met the limit and the whole body was looked at.
    obtain ⟨hfault, rfl⟩ := (verifyFunction_eq_ok_iff hbody).mp h
    have hwhole : bodySummary depth signatures function.key body =
        bodySummary none signatures function.key body := bodySummary_eq_of_fault? hfault
    refine (verifyFunction_eq_ok_iff hbody).mpr ⟨hwhole ▸ hfault, ?_⟩
    rw [bodyReport, bodyReport, hwhole]

/-- Sources that agree on the concerns of a function lead to the same outcome. -/
theorem verifyFunction_congr
    (h : ∀ key ∈ function.concerns, signatures.lookup key = signatures'.lookup key) :
    verifyFunction depth signatures function = verifyFunction depth signatures' function := by
  have hown : signatures.lookup function.key = signatures'.lookup function.key :=
    h function.key List.mem_cons_self
  cases hbody : function.body with
  | none => rw [verifyFunction_of_no_body hbody, verifyFunction_of_no_body hbody, hown]
  | some body =>
    have hcallees : ∀ key ∈ body.callees, signatures.lookup key = signatures'.lookup key := by
      intro key hkey
      refine h key (List.mem_cons_of_mem _ ?_)
      rw [hbody]
      exact hkey
    -- Whether there is a fault does not depend on contracts at all.
    have hsame : (bodySummary depth signatures function.key body).fault? =
        (bodySummary depth signatures' function.key body).fault? := fault?_summary_eq _ _ _ _ _
    cases hfault : (bodySummary depth signatures function.key body).fault? with
    | some found =>
      have hfault' := hsame.symm.trans hfault
      rw [verifyFunction_of_fault hbody hfault, verifyFunction_of_fault hbody hfault']
    | none =>
      have hfault' := hsame.symm.trans hfault
      have hsummary : bodySummary depth signatures function.key body =
          bodySummary depth signatures' function.key body := by
        rw [bodySummary_eq_of_fault? hfault, bodySummary_eq_of_fault? hfault']
        exact Context.summary_congr (by rfl) hcallees none
      rw [verifyFunction_of_no_fault hbody hfault, verifyFunction_of_no_fault hbody hfault',
        bodyReport, bodyReport, hsummary, hown]

end Throws.Verification
