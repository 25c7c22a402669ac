import Throws.Contract.Specifier

/-!
# Exception contracts

A `Contract` is the meaning of a specifier: a declared set of exceptions, or nothing. A function
without a contract may propagate anything, exactly as if it were declared `throws(...)`, but the
two stay apart so that a report can say that no contract was written.
-/

namespace Throws

/-- What the declarations of a function promise about exceptions. -/
inductive Contract where
  /-- No promise was written. -/
  | undeclared
  /-- Only these exceptions leave the function. -/
  | declared (allowed : ExceptionSet)
deriving DecidableEq, Inhabited

namespace Contract

/-- Whether a promise was written. -/
def isDeclared : Contract → Bool
  | .undeclared => false
  | .declared _ => true

/-- The declared set, if a promise was written. -/
def declared? : Contract → Option ExceptionSet
  | .undeclared => none
  | .declared allowed => some allowed

/-- What a caller has to reckon with. -/
def effective : Contract → ExceptionSet
  | .undeclared => .universal
  | .declared allowed => allowed

/-- A contract in the words of a report. -/
def render : Contract → String
  | .undeclared => "without an exception contract"
  | .declared allowed => if allowed.isEmpty then "noexcept" else allowed.render

end Contract

namespace Specifier

/-- A specifier with both `noexcept` and `throws` has no meaning. -/
structure Conflict where
  /-- The offending specifier. -/
  specifier : Specifier

/-- The wording of a conflict. -/
def Conflict.message (conflict : Conflict) : String :=
  "annotation `" ++ conflict.specifier.render ++ "` specifies both noexcept and throws"

/-- The meaning of a specifier that does not contradict itself. The wildcard outweighs the listed
types, and repetitions among them do not count. -/
def meaning (written : Specifier) : Contract :=
  if written.wildcard then .declared .universal
  else match written.throws with
    | some types => .declared (.ofList types)
    | none => if written.noexcept then .declared ∅ else .undeclared

/-- The contract that a specifier stands for. -/
def contract (written : Specifier) : Except Conflict Contract :=
  if written.isConflicting then .error ⟨written⟩ else .ok written.meaning

end Specifier

end Throws
