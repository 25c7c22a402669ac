import Throws.Proofs.Summary

/-!
# What cannot be analysed

Some nodes cannot be analysed, whatever is around them: a call without a target, a throw without a
type, and whatever has no place inside a body. A walk passes over none of them, neither behind an
effect that is unbounded already nor in a handler that is never reached. It checks the nodes of a
fragment in a fixed order and stops at the first defect.

The order is `Node.checks`: a node comes before its parts, but a throw comes after its operand. The
main result is `fault?_summary_eq_findSome?`. It mentions neither contracts nor handlers, so these
can neither hide nor cause a fault.
-/

namespace Throws.Body

/-- Whether a node is checked only after its parts. The type of a throw is not needed before its
operand has been walked through. -/
def Node.isCheckedLast : Node → Bool
  | .throw _ _ _ => true
  | _ => false

/-- Every node inside a fragment, in the order in which a walk checks them. -/
def Node.checks (node : Node) : List Occurrence :=
  let below := node.parts.attach.flatMap fun part =>
    (checks part.1.2).map (Occurrence.under part.1.1)
  if node.isCheckedLast then below ++ [⟨[], node⟩] else ⟨[], node⟩ :: below
termination_by sizeOf node
decreasing_by exact Node.sizeOf_part_lt part.2

/-- A throw is checked after what is inside of its parts, and any other node before. -/
theorem Node.checks_eq (node : Node) :
    node.checks =
      if node.isCheckedLast then
        (node.parts.flatMap fun part => part.2.checks.map (Occurrence.under part.1))
          ++ [⟨[], node⟩]
      else ⟨[], node⟩ :: node.parts.flatMap fun part =>
        part.2.checks.map (Occurrence.under part.1) := by
  rw [checks, ← List.flatMap_map Subtype.val
    fun part : Descent × Node => part.2.checks.map (Occurrence.under part.1),
    List.attach_map_subtype_val]

/-- A walk checks the same nodes as it enters. -/
theorem Node.checks_perm_occurrences (node : Node) : node.checks.Perm node.occurrences := by
  refine Node.parts_induction (motive := fun node => node.checks.Perm node.occurrences)
    (fun node ih => ?_) node
  have hbelow : (node.parts.flatMap fun part => part.2.checks.map (Occurrence.under part.1)).Perm
      (node.parts.flatMap fun part => part.2.occurrences.map (Occurrence.under part.1)) :=
    List.Perm.flatMap .rfl fun part hpart => (ih part hpart).map _
  rw [Node.checks_eq, Node.occurrences_eq]
  -- The two orders differ at most in where the node itself stands.
  cases node.isCheckedLast with
  | true => exact (List.perm_append_singleton _ _).trans (hbelow.cons _)
  | false => exact hbelow.cons _

/-- The first finding in several lists is the first among their first findings. -/
theorem findSome?_flatMap {α β γ : Type} (items : List α) (lists : α → List β)
    (find : β → Option γ) :
    (items.flatMap lists).findSome? find = items.findSome? fun item =>
      (lists item).findSome? find := by
  induction items with
  | nil => rfl
  | cons item rest ih =>
    rw [List.flatMap_cons, List.findSome?_append, ih, List.findSome?_cons]
    cases (lists item).findSome? find <;> rfl

end Throws.Body

namespace Throws.Effect

open Throws.Body

/-- What is wrong with a node itself, apart from its parts: a part that is needed is missing, has no
place inside a body or was cut off, the target of a call was not found, or the type of a thrown
value was not. -/
def defect? : Node → Option (Fault × Span)
  | .absent => some (.missing, {})
  | .misplaced what span => some (.unsupported what, span)
  | .depths => some (.tooDeep, {})
  | .call none _ spelling span => some (.unresolvedCall spelling, span)
  | .throw _ none span => some (.untypedThrow, span)
  | _ => none

/-- Somewhere in the fragment there is a defect. -/
def Defective (node : Node) : Prop :=
  ∃ occurrence ∈ node.occurrences, (defect? occurrence.node).isSome = true

/-- Of the nodes in the fragment, the first one that has a defect has this one. -/
def FirstDefect (node : Node) (fault : Fault) (span : Span) : Prop :=
  ∃ earlier occurrence later, node.checks = earlier ++ occurrence :: later ∧
    defect? occurrence.node = some (fault, span) ∧ ∀ other ∈ earlier, defect? other.node = none

/-- What is found on entering a node is its defect, unless the node is checked last. -/
theorem fault?_entry (node : Node) :
    (entry node).fault? = if node.isCheckedLast then none else defect? node := by
  cases node with
  | call callee args spelling span => cases callee <;> rfl
  | _ => rfl

/-- What goes wrong after the parts of a node is its defect, if the node is checked last. -/
theorem fault?_own (context : Context) (handled : Option ExceptionSet) (node : Node) :
    (context.own handled node).fault? = if node.isCheckedLast then defect? node else none := by
  cases node with
  | call callee args spelling span => cases callee <;> rfl
  | throw value type span => cases type <;> rfl
  | _ => rfl

/-- A walk stops at the first defect in the order of its checks. -/
theorem fault?_summary_eq_findSome? (context : Context) (handled : Option ExceptionSet)
    (node : Node) :
    (context.summary handled node).fault? = node.checks.findSome? (defect? ·.node) := by
  -- Handlers change the handled set from part to part, so the induction is for all of them.
  refine Node.parts_induction (motive := fun node => ∀ handled,
    (context.summary handled node).fault? = node.checks.findSome? (defect? ·.node))
    (fun node ih handled => ?_) node handled
  -- A defect inside of a part is the same seen from the node.
  have hparts : (node.parts.map fun part =>
        (context.summary (handledBelow part.1 handled) part.2).fault?).findSome? id =
      (node.parts.flatMap fun part => part.2.checks.map (Occurrence.under part.1)).findSome?
        (defect? ·.node) := by
    rw [List.map_congr_left fun part hpart => ih part hpart _, List.findSome?_map,
      findSome?_flatMap]
    simp only [List.findSome?_map]
    rfl
  rw [Context.fault?_summary, hparts, fault?_entry, fault?_own, Node.checks_eq]
  cases node.isCheckedLast with
  | true => simp [List.findSome?_append]
  | false =>
    simp only [Bool.false_eq_true, if_false, Option.or_none, List.findSome?_cons]
    cases defect? node <;> rfl

/-- Faults do not depend on contracts or on what is handled. -/
theorem fault?_summary_eq (context other : Context) (handled handled' : Option ExceptionSet)
    (node : Node) :
    (context.summary handled node).fault? = (other.summary handled' node).fault? := by
  rw [fault?_summary_eq_findSome?, fault?_summary_eq_findSome?]

/-- What a walk stops at is the first defect. -/
theorem fault?_eq_some_iff (context : Context) (handled : Option ExceptionSet) (node : Node)
    (fault : Fault) (span : Span) :
    (context.summary handled node).fault? = some (fault, span) ↔ FirstDefect node fault span := by
  rw [fault?_summary_eq_findSome?, List.findSome?_eq_some_iff]
  rfl

/-- Where there is a defect, one of them comes first. -/
theorem defective_iff_exists_firstDefect (node : Node) :
    Defective node ↔ ∃ fault span, FirstDefect node fault span := by
  have hsome : Defective node ↔ (node.checks.findSome? (defect? ·.node)).isSome = true := by
    rw [List.findSome?_isSome_iff]
    simp only [Defective, node.checks_perm_occurrences.mem_iff]
  simp only [hsome, Option.isSome_iff_exists, Prod.exists, List.findSome?_eq_some_iff, FirstDefect]

end Throws.Effect
