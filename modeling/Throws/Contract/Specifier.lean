import Throws.ExceptionSet.Basic
import Throws.Span

/-!
# What a declaration writes about exceptions

An `Specifier` keeps the `throws(...)` and `noexcept` clauses of one declaration literally: the
listed types in source order with their repetitions, and where the clauses stand. A declaration
that has both kinds of clause contradicts itself; every other specifier has a meaning, its
`Contract`.
-/

namespace Throws

/-- The exception clauses of one declaration, as written. -/
structure Specifier where
  /-- Types listed by the `throws` clauses in source order; `none` when there is no such clause. -/
  throws : Option (List String) := none
  /-- Whether `...` was listed. -/
  wildcard : Bool := false
  /-- Whether `noexcept` was written. -/
  noexcept : Bool := false
  /-- Where the first clause stands. -/
  span : Span := {}
deriving DecidableEq, Inhabited

namespace Specifier

/-- The specifier of a declaration that writes nothing. -/
def unwritten : Specifier := {}

/-- The specifier `noexcept`. -/
def nothrow : Specifier := { noexcept := true }

/-- The specifier `throws(...)` over the given types. -/
def throwing (types : List String) (wildcard : Bool) : Specifier :=
  { throws := some types, wildcard := wildcard }

/-- Whether there is a `throws` clause. -/
def hasThrows (written : Specifier) : Bool := written.throws.isSome || written.wildcard

/-- Whether there is any clause. -/
def isWritten (written : Specifier) : Bool := written.hasThrows || written.noexcept

/-- Whether `noexcept` and `throws` stand on the same declaration. -/
def isConflicting (written : Specifier) : Bool := written.noexcept && written.hasThrows

/-- Whether two specifiers have the same clauses, wherever they stand. -/
def sameClauses (a b : Specifier) : Bool :=
  decide (a.throws = b.throws) && a.wildcard == b.wildcard && a.noexcept == b.noexcept

/-- The clauses as text, `...` last in its list and `noexcept` last of all. -/
def render (written : Specifier) : String :=
  let types := written.throws.getD [] ++ if written.wildcard then ["..."] else []
  let listed := if written.hasThrows then ["throws(" ++ ", ".intercalate types ++ ")"] else []
  " ".intercalate (listed ++ if written.noexcept then ["noexcept"] else [])

end Specifier

end Throws
