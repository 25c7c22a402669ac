import Throws.Signature.Table

/-!
# Sessions with a registry

A registry is used by one operation after another. Each of them has an answer, and some leave the
registry changed. A declaration that is rejected is either put on the list of collected errors or
raised, as whoever registers it prefers; a registry that has been published raises an error in any
case.
-/

namespace Throws.Signature

/-- One use of a registry. -/
inductive Operation where
  /-- Registers a declaration. An error in it is collected, or else it is raised. -/
  | register (key : FunctionKey) (declared : Declared) (span : Option Span) (collecting : Bool)
  /-- Asks for the contract of a function. -/
  | lookup (key : FunctionKey)
  /-- Publishes the table. -/
  | freeze

/-- What comes of an operation. -/
inductive Answer where
  /-- Whether a declaration was accepted. -/
  | registered (accepted : Bool)
  /-- An error that is not collected. -/
  | raised (refusal : Refusal)
  /-- The contract of a function. -/
  | contract (contract : Contract)
  /-- The published table. -/
  | view (table : Table)

/-- A registry in use. -/
structure Session where
  /-- The registry. -/
  registry : Registry := {}
  /-- The errors that were collected, in the order of the declarations. -/
  collected : List Diagnostic := []

namespace Session

/-- Carries out one operation. -/
def step (session : Session) : Operation → Answer × Session
  | .register key declared span collecting =>
    match session.registry.register key declared span with
    | .ok registry => (.registered true, { session with registry := registry })
    | .error .frozen => (.raised .frozen, session)
    | .error (.rejected diagnostic) =>
      if collecting then
        (.registered false, { session with collected := session.collected ++ [diagnostic] })
      else (.raised (.rejected diagnostic), session)
  | .lookup key => (.contract (session.registry.table.lookup key), session)
  | .freeze =>
    (.view session.registry.freeze.view, { session with registry := session.registry.freeze })

/-- Carries out operations one after the other. -/
def run (session : Session) (operations : List Operation) : Session :=
  operations.foldl (fun current operation => (current.step operation).2) session

end Session

end Throws.Signature
