import Throws.ExceptionSet.Names

/-!
# Exception sets

An `ExceptionSet` is what may escape from a piece of code: finitely many exception types, known by
their canonical names, or any exception whatsoever. `∅` is the promise not to throw. Every rule of
the effect analysis comes down to the operations of this file.

The universal set is a separate element and not the set of all names: taking finitely many types
out of it leaves it universal, since there is always another type that may be thrown.
-/

namespace Throws

/-- The exceptions that may escape from a piece of code. -/
inductive ExceptionSet where
  /-- Only exceptions of these types. -/
  | finite (names : NameSet)
  /-- Any exception. -/
  | universal
deriving DecidableEq

namespace ExceptionSet

instance : EmptyCollection ExceptionSet := ⟨.finite .empty⟩

instance : Inhabited ExceptionSet := ⟨∅⟩

/-- The finite set of the listed types. -/
def ofList (names : List String) : ExceptionSet := .finite (.ofList names)

/-- The set of one type. -/
def single (name : String) : ExceptionSet := ofList [name]

/-- The set with the given members, or the universal set, which keeps none of them. -/
def ofFields (names : List String) (unbounded : Bool) : ExceptionSet :=
  if unbounded then .universal else ofList names

/-- Whether any exception may escape. -/
def isUniversal : ExceptionSet → Bool
  | .finite _ => false
  | .universal => true

/-- Whether nothing may escape; never so for the universal set. -/
def isEmpty : ExceptionSet → Bool
  | .finite names => names.isEmpty
  | .universal => false

/-- The listed types in increasing order; the universal set lists none. -/
def names : ExceptionSet → List String
  | .finite names => names.toList
  | .universal => []

/-- What may escape from either of two pieces of code. -/
def union : ExceptionSet → ExceptionSet → ExceptionSet
  | .finite a, .finite b => .finite (a.union b)
  | _, _ => .universal

/-- What is left of `a` when everything in `b` is caught. Only a handler for any exception bounds
the universal set, and it leaves nothing at all. -/
def subtract : ExceptionSet → ExceptionSet → ExceptionSet
  | _, .universal => ∅
  | .universal, .finite _ => .universal
  | .finite a, .finite b => .finite (a.diff b)

/-- Whether everything in `a` is allowed by `b`. -/
def isSubset : ExceptionSet → ExceptionSet → Bool
  | _, .universal => true
  | .universal, .finite _ => false
  | .finite a, .finite b => a.isSubset b

instance : Union ExceptionSet := ⟨union⟩

instance : SDiff ExceptionSet := ⟨subtract⟩

instance : HasSubset ExceptionSet := ⟨fun a b => a.isSubset b = true⟩

instance (a b : ExceptionSet) : Decidable (a ⊆ b) :=
  inferInstanceAs (Decidable (a.isSubset b = true))

/-- Joins sets onto `joined` one after the other. As soon as any exception may escape, the sets that
are left are not looked at. -/
def joinOnto (joined : ExceptionSet) : List ExceptionSet → ExceptionSet
  | [] => joined
  | first :: rest =>
    let next := joined ∪ first
    if next.isUniversal then next else next.joinOnto rest

/-- What may escape from any of several pieces of code. -/
def unionAll (sets : List ExceptionSet) : ExceptionSet := joinOnto ∅ sets

/-- A set as it is written in a declaration: `throws()`, `throws(A, B)` or `throws(...)`. -/
def render : ExceptionSet → String
  | .universal => "throws(...)"
  | .finite names => "throws(" ++ ", ".intercalate names.toList ++ ")"

/-- `name` may escape according to the set. -/
instance : Membership String ExceptionSet :=
  ⟨fun set name => match set with
    | .finite names => name ∈ names
    | .universal => True⟩

@[simp]
theorem mem_finite {name : String} {names : NameSet} :
    name ∈ ExceptionSet.finite names ↔ name ∈ names :=
  Iff.rfl

@[simp]
theorem mem_universal {name : String} : name ∈ universal := trivial

@[simp]
theorem mem_union {name : String} {a b : ExceptionSet} : name ∈ a ∪ b ↔ name ∈ a ∨ name ∈ b := by
  cases a <;> cases b <;> simp [Union.union, union]

@[simp]
theorem not_mem_empty {name : String} : name ∉ (∅ : ExceptionSet) := NameSet.not_mem_empty

end ExceptionSet

end Throws
