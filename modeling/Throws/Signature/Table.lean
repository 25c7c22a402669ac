import Throws.Contract.Basic
import Throws.Diagnostic

/-!
# Signature tables

A `Table` records the contract of every function identity that was declared, in the order in which
the identities first appeared. A function has exactly one contract: the first declaration settles
it, and a later one with another effective contract is rejected. A declaration without a contract
and one with `throws(...)` agree, and the written form is kept.

A `Registry` is a table that is still being filled, or has been published and is closed for further
declarations.
-/

namespace Throws.Signature

/-- The contract of one function and the place of its first declaration. -/
structure Entry where
  /-- The contract that was settled. -/
  contract : Contract
  /-- Where the function was first declared. -/
  span : Span := {}
deriving DecidableEq, Inhabited

/-- Contracts by function identity, in order of first declaration. -/
structure Table where
  /-- The recorded functions. -/
  entries : List (FunctionKey × Entry) := []
deriving DecidableEq, Inhabited

namespace Table

/-- The table without any function. -/
def empty : Table := {}

/-- The entry of a function. -/
def find? (table : Table) (key : FunctionKey) : Option Entry := table.entries.lookup key

/-- Whether the function was declared. -/
def contains (table : Table) (key : FunctionKey) : Bool := (table.find? key).isSome

/-- The contract of a function; a function that was never declared has none. -/
def lookup (table : Table) (key : FunctionKey) : Contract :=
  match table.find? key with
  | some entry => entry.contract
  | none => .undeclared

/-- The number of functions. -/
def size (table : Table) : Nat := table.entries.length

/-- The functions in order of first declaration. -/
def keys (table : Table) : List FunctionKey := table.entries.map (·.1)

/-- The functions and their contracts in order of first declaration. -/
def items (table : Table) : List (FunctionKey × Contract) :=
  table.entries.map fun (key, entry) => (key, entry.contract)

/-- The table with one more function, put last. -/
def push (table : Table) (key : FunctionKey) (entry : Entry) : Table :=
  ⟨table.entries ++ [(key, entry)]⟩

/-- The table with another contract for a function that is in it already. -/
def setContract (table : Table) (key : FunctionKey) (contract : Contract) : Table :=
  ⟨table.entries.map fun (other, entry) =>
    (other, if other = key then { entry with contract := contract } else entry)⟩

end Table

/-- Why a declaration is not taken into a table. -/
inductive Problem where
  /-- The specifier has both `noexcept` and `throws`. -/
  | selfContradiction (specifier : Specifier)
  /-- An earlier declaration settled another contract. -/
  | conflict (earlier : Entry) (now : Contract)

/-- The report of a problem with a declaration of `key` at `span`. -/
def Problem.report (key : FunctionKey) (span : Span) : Problem → Diagnostic
  | .selfContradiction specifier => {
      message := "function " ++ key.symbol ++ " specifies both noexcept and throws: `"
        ++ specifier.render ++ "`"
      kind := .noexceptThrowsConflict
      function := some key
      phase := some "signatures"
      span := span }
  | .conflict earlier now => {
      message := "conflicting exception contracts for " ++ key.symbol ++ ": previously declared "
        ++ earlier.contract.render ++ ", now " ++ now.render
      kind := .conflictingContract
      function := some key
      phase := some "signatures"
      span := span
      notes := if earlier.span.isKnown then
          ["previous declaration is here: " ++ earlier.span.format]
        else [] }

/-- What a declaration says about exceptions: literal clauses, or a contract as such. -/
inductive Declared where
  /-- The clauses of a declaration. -/
  | specifier (specifier : Specifier)
  /-- A contract without clauses behind it. -/
  | contract (contract : Contract)

/-- Rejects a specifier that contradicts itself. Without a span of its own the report stands
where the specifier does. -/
def checkSpecifier (key : FunctionKey) (specifier : Specifier) (span : Option Span) :
    Except Diagnostic Unit :=
  if specifier.isConflicting then
    .error ((Problem.selfContradiction specifier).report key (span.getD specifier.span))
  else .ok ()

namespace Table

/-- Records a declaration whose contract is known. -/
def recordContract (table : Table) (key : FunctionKey) (contract : Contract) (span : Span) :
    Except Diagnostic Table :=
  match table.find? key with
  | none => .ok (table.push key { contract := contract, span := span })
  | some earlier =>
    if earlier.contract.effective ≠ contract.effective then
      .error ((Problem.conflict earlier contract).report key span)
    else if contract.isDeclared && !earlier.contract.isDeclared then
      .ok (table.setContract key contract)
    else .ok table

/-- Records one declaration of `key`, or says why it is rejected. -/
def record (table : Table) (key : FunctionKey) (declared : Declared) (span : Option Span) :
    Except Diagnostic Table :=
  match declared with
  | .specifier specifier => do
    checkSpecifier key specifier span
    table.recordContract key specifier.meaning (span.getD specifier.span)
  | .contract contract => table.recordContract key contract (span.getD {})

/-- The table of the given contracts, recorded in order, or why one of them is rejected. -/
def ofContracts (contracts : List (FunctionKey × Contract)) : Except Diagnostic Table :=
  contracts.foldlM (fun table (key, contract) => table.record key (.contract contract) none) empty

end Table

/-- A table that is open for declarations until it is published. -/
structure Registry where
  /-- What has been recorded. -/
  table : Table := {}
  /-- What has been published, if anything has. -/
  published : Option Table := none
deriving DecidableEq, Inhabited

/-- Why a registration fails. -/
inductive Refusal where
  /-- The table has been published already. -/
  | frozen
  /-- The declaration is in error. -/
  | rejected (diagnostic : Diagnostic)

/-- The wording of a refusal. -/
def Refusal.message : Refusal → String
  | .frozen => "signature table is frozen; register all declarations before verification"
  | .rejected diagnostic => diagnostic.message

namespace Registry

/-- Whether the table has been published. -/
def frozen (registry : Registry) : Bool := registry.published.isSome

/-- Registers one declaration in a table that is still open. -/
def register (registry : Registry) (key : FunctionKey) (declared : Declared)
    (span : Option Span) : Except Refusal Registry :=
  if registry.frozen then .error .frozen
  else match registry.table.record key declared span with
    | .ok table => .ok { registry with table := table }
    | .error diagnostic => .error (.rejected diagnostic)

/-- Publishes the table as it is now, unless it has been published before. -/
def freeze (registry : Registry) : Registry :=
  { registry with published := registry.published.or (some registry.table) }

/-- The table as others see it: what has been published, or what is there to publish. -/
def view (registry : Registry) : Table := registry.published.getD registry.table

end Registry

end Throws.Signature
