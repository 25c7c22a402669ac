import Mathlib.Data.List.Forall2
import Throws.Body.Nesting
import Throws.Proofs.Summary

/-!
# The depth limit

A limit on the depth of a body never changes what is found out about it: the walk through the
pruned body either stops with a fault or comes to just what the whole body comes to. So whoever
gets an answer need not care about the limit.
-/

namespace Throws.Body

/-- The descent into a pruned node. -/
def Descent.prune (levels : Nat) : Descent → Descent
  | .inside => .inside
  | .guarded clauses => .guarded (pruneClauses levels clauses)
  | .handling clause => .handling (clause.prune levels)

/-- Nodes are pruned one by one. -/
theorem pruneAll_eq_map (levels : Nat) (nodes : List Node) :
    pruneAll levels nodes = nodes.map (·.prune levels) := by
  induction nodes with
  | nil => rfl
  | cons node rest ih => rw [pruneAll, ih, List.map_cons]

/-- Handlers are pruned one by one. -/
theorem pruneClauses_eq_map (levels : Nat) (clauses : List Clause) :
    pruneClauses levels clauses = clauses.map (·.prune levels) := by
  induction clauses with
  | nil => rfl
  | cons clause rest ih => rw [pruneClauses, ih, List.map_cons]

/-- A node is entered where there are levels enough. -/
theorem cut_of_le {levels : Nat} (h : 2 ≤ levels) (node : Node) : cut levels node = node :=
  if_neg (by omega)

/-- Pruning leaves out no part that is present, and adds none. -/
theorem Node.present_prune (levels : Nat) (node : Node) :
    (node.prune levels).present = node.present.map (·.prune levels) := by
  -- A node is replaced by itself or by the mark of what was cut off, and both are present.
  have hcut : ∀ other : Node, other ≠ .absent →
      (cut levels other).present = [cut levels other] := by
    intro other hother
    unfold cut
    split
    · rfl
    · exact present_of_ne_absent hother
  cases node with
  | absent | depths => rfl
  | _ => exact hcut _ nofun

/-- A node and what is left of it at some number of levels. -/
def IsPruned (pruned node : Node) : Prop := ∃ levels, pruned = node.prune levels

/-- A descent and a node, and what is left of them, each at some number of levels. -/
def IsPrunedPart (pruned part : Descent × Node) : Prop :=
  (∃ levels, pruned.1 = part.1.prune levels) ∧ IsPruned pruned.2 part.2

theorem forall₂_isPruned_map (levels : Nat) (nodes : List Node) :
    List.Forall₂ IsPruned (nodes.map (·.prune levels)) nodes := by
  rw [List.forall₂_map_left_iff, List.forall₂_same]
  exact fun node _ => ⟨levels, rfl⟩

theorem forall₂_isPruned_flatMap_present (levels : Nat) (nodes : List Node) :
    List.Forall₂ IsPruned ((nodes.map (·.prune levels)).flatMap Node.present)
      (nodes.flatMap Node.present) := by
  have hpresent : (nodes.map (·.prune levels)).flatMap Node.present =
      (nodes.flatMap Node.present).map (·.prune levels) := by
    rw [List.flatMap_map, List.map_flatMap]
    simp only [Node.present_prune]
  rw [hpresent]
  exact forall₂_isPruned_map levels _

/-- What simply lies inside a node that is entered is pruned, part by part. -/
theorem Node.forall₂_inner_prune {levels : Nat} (h : 2 ≤ levels) (node : Node) :
    List.Forall₂ IsPruned (node.prune levels).inner node.inner := by
  cases node with
  | absent | depths => exact .nil
  | unary | eval | throw =>
    rw [Node.prune, cut_of_le h]
    exact .cons ⟨_, rfl⟩ .nil
  | binary op left right span =>
    rw [Node.prune, cut_of_le h]
    exact .cons ⟨_, rfl⟩ (.cons ⟨_, rfl⟩ .nil)
  | call callee args spelling span =>
    rw [Node.prune, cut_of_le h, pruneAll_eq_map]
    exact forall₂_isPruned_flatMap_present _ args
  | indirectCall callee contract args span =>
    -- The function value is one level less deep than the arguments.
    rw [Node.prune, cut_of_le h, pruneAll_eq_map]
    exact .cons ⟨_, rfl⟩ (forall₂_isPruned_flatMap_present _ args)
  | construct type args span =>
    rw [Node.prune, cut_of_le h, pruneAll_eq_map]
    exact forall₂_isPruned_flatMap_present _ args
  | block statements span =>
    rw [Node.prune, cut_of_le h, pruneAll_eq_map]
    exact forall₂_isPruned_flatMap_present _ statements
  | bind _ value span | ret value span =>
    rw [Node.prune, cut_of_le h, inner, present_prune]
    exact forall₂_isPruned_map _ _
  | branch condition whenTrue whenFalse span =>
    rw [Node.prune, cut_of_le h]
    exact forall₂_isPruned_flatMap_present _ [condition, whenTrue, whenFalse]
  | loop body condition init step span =>
    rw [Node.prune, cut_of_le h]
    exact forall₂_isPruned_flatMap_present _ [init, condition, body, step]
  | _ =>
    rw [Node.prune, cut_of_le h]
    exact .nil

/-- A node that is entered is pruned part by part. -/
theorem Node.forall₂_parts_prune {levels : Nat} (h : 2 ≤ levels) (node : Node) :
    List.Forall₂ IsPrunedPart (node.prune levels).parts node.parts := by
  by_cases hguarded : ∃ body clauses span, node = .guarded body clauses span
  · obtain ⟨body, clauses, span, rfl⟩ := hguarded
    rw [Node.prune, cut_of_le h]
    refine .cons ⟨⟨_, rfl⟩, _, rfl⟩ ?_
    rw [pruneClauses_eq_map, List.map_map, List.forall₂_map_left_iff, List.forall₂_map_right_iff,
      List.forall₂_same]
    intro clause _
    cases clause
    exact ⟨⟨_, rfl⟩, _, rfl⟩
  · have hplain : ∀ body clauses span, node ≠ .guarded body clauses span :=
      fun body clauses span heq => hguarded ⟨body, clauses, span, heq⟩
    have hplain' : ∀ body clauses span, node.prune levels ≠ .guarded body clauses span := by
      intro body clauses span heq
      cases node with
      | guarded body clauses span => exact hplain body clauses span rfl
      | absent | depths => cases heq
      | _ =>
        rw [Node.prune, cut_of_le h] at heq
        cases heq
    rw [parts_eq_inner hplain, parts_eq_inner hplain', List.forall₂_map_left_iff,
      List.forall₂_map_right_iff]
    exact (forall₂_inner_prune h node).imp fun _ _ hpruned => ⟨⟨0, rfl⟩, hpruned⟩

end Throws.Body

namespace Throws.Effect

open Throws.Body

/-- Pruning a handler does not change what it catches. -/
theorem caught_prune (levels : Nat) (clause : Clause) :
    caught (clause.prune levels) = caught clause := by
  cases clause
  rfl

/-- Pruning handlers does not change what they leave of an effect. -/
theorem uncaught_pruneClauses (effect : ExceptionSet) (levels : Nat) (clauses : List Clause) :
    uncaught effect (pruneClauses levels clauses) = uncaught effect clauses := by
  rw [pruneClauses_eq_map]
  exact uncaught_map (caught_prune levels) effect clauses

theorem handledBelow_prune (levels : Nat) (descent : Descent) (handled : Option ExceptionSet) :
    handledBelow (descent.prune levels) handled = handledBelow descent handled := by
  cases descent with
  | inside | guarded => rfl
  | handling clause => exact congrArg (fun set => some set) (caught_prune levels clause)

namespace Context

variable (context : Context)

/-- What is seen of a part does not depend on what the handlers around it do. -/
theorem through_prune (part : Summary) (levels : Nat) (descent : Descent) :
    context.through part (descent.prune levels) = context.through part descent := by
  cases descent with
  | inside | handling => rfl
  | guarded clauses =>
    have hproblems : (pruneClauses levels clauses).flatMap context.clauseProblems =
        clauses.flatMap context.clauseProblems := by
      rw [pruneClauses_eq_map, List.flatMap_map]
      refine List.flatMap_congr fun clause _ => ?_
      cases clause
      rfl
    simp only [Descent.prune, through, uncaught_pruneClauses, hproblems]

/-- Whatever is found on entering a node is found on entering what is left of it. -/
theorem entry_prune {levels : Nat} (h : 2 ≤ levels) (node : Node) :
    entry (node.prune levels) = entry node := by
  cases node with
  | absent | depths => rfl
  | call callee args spelling span =>
    rw [Node.prune, cut_of_le h]
    cases callee <;> rfl
  | _ => exact (congrArg entry (cut_of_le h _)).trans rfl

/-- What a node adds itself is added by what is left of it. -/
theorem own_prune {levels : Nat} (h : 2 ≤ levels) (handled : Option ExceptionSet) (node : Node) :
    context.own handled (node.prune levels) = context.own handled node := by
  cases node with
  | absent | depths => rfl
  | call callee args spelling span =>
    rw [Node.prune, cut_of_le h]
    cases callee <;> rfl
  | throw value type span =>
    rw [Node.prune, cut_of_le h]
    cases type <;> rfl
  | _ => exact (congrArg (context.own handled) (cut_of_le h _)).trans rfl

/-- A walk has no fault if it finds none on entering a node, none in its parts and none after
them. -/
theorem fault?_eq_none_iff {handled : Option ExceptionSet} {node : Node} :
    (context.summary handled node).fault? = none ↔
      ((entry node).fault? = none ∧ ∀ part ∈ node.parts,
        (context.summary (handledBelow part.1 handled) part.2).fault? = none) ∧
      (context.own handled node).fault? = none := by
  rw [fault?_summary, Option.or_eq_none_iff, Option.or_eq_none_iff, List.findSome?_eq_none_iff]
  simp only [List.forall_mem_map, id_eq]

/-- Where a walk finds no fault, there are levels enough. -/
theorem two_le_of_fault?_prune {levels : Nat} {handled : Option ExceptionSet} {node : Node}
    (h : (context.summary handled (node.prune levels)).fault? = none) : 2 ≤ levels := by
  by_contra hlevels
  -- With fewer levels only the mark of what was cut off is left, which is a fault.
  have hcut : ∀ other, cut levels other = .depths := fun other => if_pos (by omega)
  have hentry := ((fault?_eq_none_iff context).mp h).1.1
  cases node with
  | absent | depths => cases hentry
  | _ =>
    rw [Node.prune, hcut] at hentry
    cases hentry

/-- A body in which no fault is found down to the limit comes to the same as the whole body. -/
theorem summary_prune {levels : Nat} {handled : Option ExceptionSet} {node : Node}
    (h : (context.summary handled (node.prune levels)).fault? = none) :
    context.summary handled (node.prune levels) = context.summary handled node := by
  refine Node.parts_induction (motive := fun node => ∀ levels handled,
    (context.summary handled (node.prune levels)).fault? = none →
      context.summary handled (node.prune levels) = context.summary handled node)
    (fun node ih levels handled h => ?_) node levels handled h
  have hlevels := two_le_of_fault?_prune context h
  have hfaults := ((fault?_eq_none_iff context).mp h).1.2
  obtain ⟨hlength, hzip⟩ := List.forall₂_iff_zip.mp (Node.forall₂_parts_prune hlevels node)
  -- Part by part: the limits may differ, but the induction covers all of them.
  have hparts : ((node.prune levels).parts.map fun part =>
        context.through (context.summary (handledBelow part.1 handled) part.2) part.1) =
      node.parts.map fun part =>
        context.through (context.summary (handledBelow part.1 handled) part.2) part.1 := by
    rw [← List.forall₂_eq_eq_eq, List.forall₂_map_left_iff, List.forall₂_map_right_iff,
      List.forall₂_iff_zip]
    refine ⟨hlength, fun {pruned part} hmem => ?_⟩
    obtain ⟨hpruned, hpart⟩ := List.of_mem_zip hmem
    obtain ⟨⟨outer, houter⟩, inner, hinner⟩ := hzip hmem
    have hfault := hfaults pruned hpruned
    rw [houter, handledBelow_prune, hinner] at hfault
    rw [houter, handledBelow_prune, through_prune, hinner, ih part hpart inner _ hfault]
  rw [summary_eq, summary_eq, entry_prune hlevels, own_prune context hlevels, hparts]

end Context

end Throws.Effect
