import Throws.Signature.Table

/-!
# Sources of contracts

A `Source` answers for the functions it knows. A table is one; several sources in a row are one
too, where the first that knows a function answers for it. A function that no source knows has no
contract.
-/

namespace Throws.Signature

/-- Something that knows the contracts of some functions. -/
structure Source where
  /-- The contract of a function, if the source knows it. -/
  find? : FunctionKey → Option Contract

namespace Source

/-- The source that knows no function. -/
def empty : Source := ⟨fun _ => none⟩

instance : Inhabited Source := ⟨empty⟩

/-- Whether the source knows the function. -/
def contains (source : Source) (key : FunctionKey) : Bool := (source.find? key).isSome

/-- The contract of a function; an unknown one has none. -/
def lookup (source : Source) (key : FunctionKey) : Contract := (source.find? key).getD .undeclared

/-- Several sources in a row: the first that knows a function answers. -/
def chain (sources : List Source) : Source := ⟨fun key => sources.findSome? (·.find? key)⟩

end Source

/-- A table as a source. -/
def Table.source (table : Table) : Source := ⟨fun key => (table.find? key).map (·.contract)⟩

end Throws.Signature
