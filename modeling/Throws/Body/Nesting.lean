import Throws.Body.Node

/-!
# Bounding the depth of a body

A body is analysed only down to a certain depth. Entering a node takes two levels, and a third one
where the parts of the node form a list; `Node.prune` cuts off whatever is left when the levels run
out. The analysis of the pruned body then fails at the first part that was cut off, unless it fails
before it gets there.
-/

namespace Throws.Body

/-- The number of levels to which bodies are analysed and programs are read. -/
def standardDepth : Nat := 990

/-- The node itself, if there are levels enough to enter it. -/
def cut (levels : Nat) (node : Node) : Node := if levels < 2 then .depths else node

mutual

/-- The node down to the given number of levels. -/
def Node.prune (levels : Nat) : Node → Node
  | .absent => .absent
  | .misplaced what span => cut levels (.misplaced what span)
  | .depths => .depths
  | .literal value span => cut levels (.literal value span)
  | .variable name span => cut levels (.variable name span)
  | .call callee args spelling span =>
    cut levels (.call callee (pruneAll (levels - 3) args) spelling span)
  | .indirectCall callee contract args span =>
    cut levels
      (.indirectCall (callee.prune (levels - 2)) contract (pruneAll (levels - 3) args) span)
  | .construct type args span => cut levels (.construct type (pruneAll (levels - 3) args) span)
  | .unary op operand span => cut levels (.unary op (operand.prune (levels - 2)) span)
  | .binary op left right span =>
    cut levels (.binary op (left.prune (levels - 2)) (right.prune (levels - 2)) span)
  | .block statements span => cut levels (.block (pruneAll (levels - 3) statements) span)
  | .eval expr span => cut levels (.eval (expr.prune (levels - 2)) span)
  | .bind name value span => cut levels (.bind name (value.prune (levels - 3)) span)
  | .ret value span => cut levels (.ret (value.prune (levels - 3)) span)
  | .throw value type span => cut levels (.throw (value.prune (levels - 2)) type span)
  | .rethrow span => cut levels (.rethrow span)
  | .branch condition whenTrue whenFalse span =>
    cut levels (.branch (condition.prune (levels - 3)) (whenTrue.prune (levels - 3))
      (whenFalse.prune (levels - 3)) span)
  | .loop body condition init step span =>
    cut levels (.loop (body.prune (levels - 3)) (condition.prune (levels - 3))
      (init.prune (levels - 3)) (step.prune (levels - 3)) span)
  | .leave span => cut levels (.leave span)
  | .next span => cut levels (.next span)
  | .guarded body clauses span =>
    cut levels (.guarded (body.prune (levels - 2)) (pruneClauses (levels - 3) clauses) span)

/-- Each of several nodes down to the given number of levels. -/
def pruneAll (levels : Nat) : List Node → List Node
  | [] => []
  | node :: rest => node.prune levels :: pruneAll levels rest

/-- Each of several handlers down to the given number of levels. -/
def pruneClauses (levels : Nat) : List Clause → List Clause
  | [] => []
  | clause :: rest => clause.prune levels :: pruneClauses levels rest

/-- A handler down to the given number of levels. -/
def Clause.prune (levels : Nat) : Clause → Clause
  | .mk type binder block span => .mk type binder (block.prune levels) span

end

end Throws.Body
