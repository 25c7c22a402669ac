import Throws.Body.Node

/-!
# The parts of a node

`Node.parts` lists the nodes directly inside a node, in the order in which a walk meets them,
together with how each of them lies there: simply inside, guarded by the handlers of a `try`, or as
the block of a handler. Everything that is said of bodies by recursion is said here in terms of
parts, so one induction (`Node.parts_induction`) serves all kinds of nodes.

An `Occurrence` is a node somewhere inside a fragment, with the way that leads there. Occurrences
are listed in two orders: that in which a walk enters the nodes, and that in which it is done with
them.
-/

namespace Throws.Body

/-- How a part lies inside its node. -/
inductive Descent where
  /-- As an operand, a statement, a branch or a part of a loop. -/
  | inside
  /-- As the body of a `try` with these handlers. -/
  | guarded (clauses : List Clause)
  /-- As the block of this handler. -/
  | handling (clause : Clause)

namespace Node

/-- The node, unless it was left out. -/
def present : Node → List Node
  | .absent => []
  | node => [node]

/-- The parts that simply lie inside the node. Where a part may be left out and was, there is
none. -/
def inner : Node → List Node
  | .call _ args _ _ => args.flatMap present
  | .indirectCall callee _ args _ => callee :: args.flatMap present
  | .construct _ args _ => args.flatMap present
  | .unary _ operand _ => [operand]
  | .binary _ left right _ => [left, right]
  | .block statements _ => statements.flatMap present
  | .eval expr _ => [expr]
  | .bind _ value _ => value.present
  | .ret value _ => value.present
  | .throw value _ _ => [value]
  | .branch condition whenTrue whenFalse _ => [condition, whenTrue, whenFalse].flatMap present
  | .loop body condition init step _ => [init, condition, body, step].flatMap present
  | _ => []

/-- All parts of a node, in the order of a walk. -/
def parts : Node → List (Descent × Node)
  | .guarded body clauses _ =>
    (.guarded clauses, body) :: clauses.map fun clause => (.handling clause, clause.block)
  | node => node.inner.map fun part => (.inside, part)

/-- A node that is present is one of its present nodes. -/
theorem mem_present {node other : Node} : other ∈ node.present ↔ other = node ∧ node ≠ .absent := by
  cases node <;> simp [present]

/-- A node that was not left out is present. -/
theorem present_of_ne_absent {node : Node} (h : node ≠ .absent) : node.present = [node] := by
  cases node with
  | absent => exact absurd rfl h
  | _ => rfl

/-- What is present among several nodes. -/
theorem mem_flatMap_present {nodes : List Node} {node : Node} :
    node ∈ nodes.flatMap present ↔ node ∈ nodes ∧ node ≠ .absent := by
  simp only [List.mem_flatMap, mem_present]
  constructor
  · rintro ⟨_, hmem, rfl, hne⟩
    exact ⟨hmem, hne⟩
  · rintro ⟨hmem, hne⟩
    exact ⟨node, hmem, rfl, hne⟩

/-- The parts of any node but a `try` simply lie inside. -/
theorem parts_eq_inner {node : Node} (h : ∀ body clauses span, node ≠ .guarded body clauses span) :
    node.parts = node.inner.map fun part => (.inside, part) := by
  cases node with
  | guarded body clauses span => exact absurd rfl (h body clauses span)
  | _ => rfl

/-- The block of a handler is smaller than the handler. -/
theorem sizeOf_block_lt (clause : Clause) : sizeOf clause.block < sizeOf clause := by
  obtain ⟨type, binder, block, span⟩ := clause
  simp only [Clause.block, Clause.mk.sizeOf_spec]
  omega

/-- Whatever simply lies inside a node is smaller than the node. -/
theorem sizeOf_inner_lt {node part : Node} (h : part ∈ node.inner) :
    sizeOf part < sizeOf node := by
  -- A member of a list of parts is smaller than the list, which is smaller than the node.
  have member : ∀ nodes : List Node, part ∈ nodes.flatMap present → sizeOf part < sizeOf nodes :=
    fun nodes hmem => List.sizeOf_lt_of_mem (mem_flatMap_present.mp hmem).1
  cases node with
  | call _ nodes _ _ | construct _ nodes _ | block nodes _ =>
    have hlist := member nodes h
    simp only [call.sizeOf_spec, construct.sizeOf_spec, block.sizeOf_spec]
    omega
  | indirectCall callee contract args span =>
    simp only [indirectCall.sizeOf_spec]
    rcases List.mem_cons.mp h with rfl | h
    · omega
    · have hlist := member args h
      omega
  | branch condition whenTrue whenFalse span =>
    have hmem := (mem_flatMap_present.mp h).1
    simp only [List.mem_cons, List.not_mem_nil, or_false] at hmem
    simp only [branch.sizeOf_spec]
    rcases hmem with rfl | rfl | rfl <;> omega
  | loop body condition init step span =>
    have hmem := (mem_flatMap_present.mp h).1
    simp only [List.mem_cons, List.not_mem_nil, or_false] at hmem
    simp only [loop.sizeOf_spec]
    rcases hmem with rfl | rfl | rfl | rfl <;> omega
  | binary op left right span =>
    simp only [inner, List.mem_cons, List.not_mem_nil, or_false] at h
    simp only [binary.sizeOf_spec]
    rcases h with rfl | rfl <;> omega
  | bind _ _ _ | ret _ _ =>
    simp only [(mem_present.mp h).1, bind.sizeOf_spec, ret.sizeOf_spec]
    omega
  | unary _ _ _ | eval _ _ | throw _ _ _ =>
    simp only [List.mem_singleton.mp h, unary.sizeOf_spec, eval.sizeOf_spec, throw.sizeOf_spec]
    omega
  | _ => exact absurd h List.not_mem_nil

/-- A part is smaller than its node. -/
theorem sizeOf_part_lt {node : Node} {part : Descent × Node} (h : part ∈ node.parts) :
    sizeOf part.2 < sizeOf node := by
  by_cases hguarded : ∃ body clauses span, node = .guarded body clauses span
  · obtain ⟨body, clauses, span, rfl⟩ := hguarded
    simp only [parts, List.mem_cons, List.mem_map] at h
    simp only [guarded.sizeOf_spec]
    rcases h with rfl | ⟨clause, hclause, rfl⟩
    · simp only
      omega
    · have hlist := List.sizeOf_lt_of_mem hclause
      have hblock := sizeOf_block_lt clause
      simp only
      omega
  · rw [parts_eq_inner fun body clauses span heq => hguarded ⟨body, clauses, span, heq⟩] at h
    obtain ⟨inside, hinside, rfl⟩ := List.mem_map.mp h
    exact sizeOf_inner_lt hinside

/-- What holds of a node whenever it holds of its parts holds of every node. -/
theorem parts_induction {motive : Node → Prop}
    (step : ∀ node : Node, (∀ part ∈ node.parts, motive part.2) → motive node) (node : Node) :
    motive node :=
  step node fun part _ => parts_induction step part.2
termination_by sizeOf node
decreasing_by exact sizeOf_part_lt ‹_›

end Node

/-- A node inside a fragment, with the way that leads to it from outside in. -/
structure Occurrence where
  /-- The descents from the fragment to the node, the outermost first. -/
  path : List Descent
  /-- The node that is found there. -/
  node : Node

/-- The handlers that guard what lies below the descent. -/
def Descent.guards : Descent → List Clause
  | .guarded clauses => clauses
  | _ => []

/-- The handler whose block is entered, if there is one. -/
def Descent.handler? : Descent → Option Clause
  | .handling clause => some clause
  | _ => none

namespace Occurrence

/-- The same node seen from one level further out. -/
def under (descent : Descent) (occurrence : Occurrence) : Occurrence :=
  { occurrence with path := descent :: occurrence.path }

/-- The handlers of all `try` statements in whose bodies the node lies. -/
def guards (occurrence : Occurrence) : List Clause := occurrence.path.flatMap Descent.guards

/-- The innermost handler in whose block the node lies, if there is one. -/
def handler? (occurrence : Occurrence) : Option Clause :=
  (occurrence.path.filterMap Descent.handler?).getLast?

end Occurrence

/-- Every node inside a fragment, the fragment itself included, in the order in which a walk enters
them. -/
def Node.occurrences (node : Node) : List Occurrence :=
  ⟨[], node⟩ :: node.parts.attach.flatMap fun part =>
    (occurrences part.1.2).map (Occurrence.under part.1.1)
termination_by sizeOf node
decreasing_by exact Node.sizeOf_part_lt part.2

/-- Inside a fragment are the fragment itself and what is inside of its parts. -/
theorem Node.occurrences_eq (node : Node) :
    node.occurrences = ⟨[], node⟩ :: node.parts.flatMap fun part =>
      part.2.occurrences.map (Occurrence.under part.1) := by
  rw [occurrences, ← List.flatMap_map Subtype.val
    fun part : Descent × Node => part.2.occurrences.map (Occurrence.under part.1),
    List.attach_map_subtype_val]

/-- Every node inside a fragment, in the order in which a walk is done with them: each node comes
after its parts. -/
def Node.postorder (node : Node) : List Occurrence :=
  (node.parts.attach.flatMap fun part =>
    (postorder part.1.2).map (Occurrence.under part.1.1)) ++ [⟨[], node⟩]
termination_by sizeOf node
decreasing_by exact Node.sizeOf_part_lt part.2

/-- A walk is done with what is inside of the parts before it is done with the fragment. -/
theorem Node.postorder_eq (node : Node) :
    node.postorder = (node.parts.flatMap fun part =>
      part.2.postorder.map (Occurrence.under part.1)) ++ [⟨[], node⟩] := by
  rw [postorder, ← List.flatMap_map Subtype.val
    fun part : Descent × Node => part.2.postorder.map (Occurrence.under part.1),
    List.attach_map_subtype_val]

end Throws.Body
