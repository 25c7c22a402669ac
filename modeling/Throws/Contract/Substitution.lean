import Throws.Contract.Basic
import Throws.Diagnostic

/-!
# Substituting one contract for another

Whether a function with one contract may stand in where a function with another is expected: an
override, a conversion to a function value, an assignment to a function variable. It may when
everything it can propagate is allowed there.
-/

namespace Throws

/-- One side of a substitution: a contract, or a bare set of exceptions. They are worded
differently, since an empty contract reads `noexcept` and an empty set `throws()`. -/
inductive Bound where
  /-- The contract of a function. -/
  | contract (promise : Contract)
  /-- A set on its own. -/
  | set (allowed : ExceptionSet)

namespace Bound

/-- What the bound allows to propagate. -/
def effective : Bound → ExceptionSet
  | .contract promise => promise.effective
  | .set allowed => allowed

/-- The bound in the words of a report. -/
def render : Bound → String
  | .contract promise => promise.render
  | .set allowed => allowed.render

end Bound

/-- Whether a function that propagates `source` may stand in for one that propagates `target`. -/
def ExceptionSet.isCovariant (source target : ExceptionSet) : Bool :=
  target.isUniversal || (!source.isUniversal && source.isSubset target)

/-- The names under which the two sides of a substitution are reported. -/
structure Substitution.Names where
  /-- Name of the function that is put in. -/
  source : String := "source"
  /-- Name of the place it is put into. -/
  target : String := "target"

/-- How the excess of a substitution is worded. -/
def Substitution.excess (extra : ExceptionSet) : String :=
  if extra.isUniversal then "it may propagate any exception"
  else "it may additionally propagate " ++ ", ".intercalate extra.names

/-- The error of putting `source` where `target` is expected, if it is one. -/
def Substitution.check (source target : Bound) (names : Substitution.Names) (span : Span) :
    Option Diagnostic :=
  if source.effective.isCovariant target.effective then none
  else
    let extra := source.effective.subtract target.effective
    some {
      message := names.source ++ " (" ++ source.render ++ ") cannot be used as " ++ names.target
        ++ " (" ++ target.render ++ "): " ++ excess extra
      kind := .contractNotCovariant
      escaping := some extra
      phase := some "verify"
      span := span }

end Throws
