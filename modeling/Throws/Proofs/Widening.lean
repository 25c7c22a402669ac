import Throws.Proofs.Summary

/-!
# How effects depend on contracts

When the contracts of the functions that are called get wider, the effect of a body gets wider, and
by no more than the contracts did: handlers may catch some of what is added, but nothing is added on
the way.
-/

namespace Throws.Effect

open Throws.Body

variable {narrow wide : Context} {extra : ExceptionSet}

/-- What a node throws itself gets wider by no more than the contracts and the handled set do. -/
theorem source?_getD_le {handled handled' : Option ExceptionSet}
    (hlookup : ∀ key, (wide.signatures.lookup key).effective ≤
      (narrow.signatures.lookup key).effective ⊔ extra)
    (hhandled : handled'.getD .universal ≤ handled.getD .universal ⊔ extra) (node : Node) :
    (source? wide.signatures handled' node).getD ∅ ≤
      (source? narrow.signatures handled node).getD ∅ ⊔ extra := by
  cases node with
  | call callee args spelling span =>
    cases callee with
    | none => exact bot_le
    | some key => exact hlookup key
  | indirectCall callee contract args span => exact le_sup_left
  | throw value type span =>
    cases type with
    | none => exact bot_le
    | some type => exact le_sup_left
  | rethrow span => exact hhandled
  | _ => exact bot_le

/-- Below a descent, the handled set is the same on both sides or as wide as above. -/
theorem handledBelow_getD_le {handled handled' : Option ExceptionSet} (descent : Descent)
    (hhandled : handled'.getD .universal ≤ handled.getD .universal ⊔ extra) :
    (handledBelow descent handled').getD .universal ≤
      (handledBelow descent handled).getD .universal ⊔ extra := by
  unfold handledBelow
  cases descent.handler? with
  | none => exact hhandled
  | some clause => exact le_sup_left

/-- Effects get wider by no more than the contracts of the functions called and the handled set. -/
theorem effect_le_of_widened
    (hlookup : ∀ key, (wide.signatures.lookup key).effective ≤
      (narrow.signatures.lookup key).effective ⊔ extra)
    {handled handled' : Option ExceptionSet}
    (hhandled : handled'.getD .universal ≤ handled.getD .universal ⊔ extra) (node : Node) :
    (wide.summary handled' node).effect ≤ (narrow.summary handled node).effect ⊔ extra := by
  refine Node.parts_induction (motive := fun node => ∀ handled handled',
    handled'.getD .universal ≤ handled.getD .universal ⊔ extra →
      (wide.summary handled' node).effect ≤ (narrow.summary handled node).effect ⊔ extra)
    (fun node ih handled handled' hhandled => ?_) node handled handled' hhandled
  rw [Context.effect_summary, Context.effect_summary, ← ExceptionSet.sup_eq_union,
    ← ExceptionSet.sup_eq_union]
  refine sup_le ?_ (ExceptionSet.unionAll_le fun set hset => ?_)
  · -- The node itself.
    exact (source?_getD_le hlookup hhandled node).trans (sup_le_sup_right le_sup_left extra)
  · -- A part: its handlers act on what is added as well.
    obtain ⟨part, hpart, rfl⟩ := List.mem_map.mp hset
    have hbelow := ih part hpart _ _ (handledBelow_getD_le part.1 hhandled)
    have hnarrow := ExceptionSet.le_unionAll (List.mem_map.mpr ⟨part, hpart, rfl⟩ :
      uncaught (narrow.summary (handledBelow part.1 handled) part.2).effect part.1.guards ∈
        node.parts.map fun part =>
          uncaught (narrow.summary (handledBelow part.1 handled) part.2).effect part.1.guards)
    calc uncaught (wide.summary (handledBelow part.1 handled') part.2).effect part.1.guards
        ≤ uncaught ((narrow.summary (handledBelow part.1 handled) part.2).effect ∪ extra)
            part.1.guards := uncaught_mono hbelow _
      _ = uncaught (narrow.summary (handledBelow part.1 handled) part.2).effect part.1.guards
            ⊔ uncaught extra part.1.guards := uncaught_union _ _ _
      _ ≤ _ ⊔ extra := sup_le_sup (le_sup_of_le_right hnarrow) (uncaught_le extra _)

/-- Effects get wider with the contracts of the functions called. -/
theorem effect_mono (hlookup : ∀ key, (narrow.signatures.lookup key).effective ≤
      (wide.signatures.lookup key).effective) (handled : Option ExceptionSet) (node : Node) :
    (narrow.summary handled node).effect ≤ (wide.summary handled node).effect := by
  rw [← sup_bot_eq (wide.summary handled node).effect]
  refine effect_le_of_widened (fun key => ?_) le_sup_left node
  rw [sup_bot_eq]
  exact hlookup key

end Throws.Effect
