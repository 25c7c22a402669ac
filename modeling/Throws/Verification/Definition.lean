import Throws.Body.Nesting
import Throws.Effect.Inference

/-!
# Verifying one definition

A definition is right when it repeats the contract of its function, if it writes one at all, and
when nothing escapes from its body that the contract does not allow.
-/

namespace Throws.Verification

open Throws.Body Throws.Effect

/-- What was found out about one function. -/
structure Report where
  /-- The function. -/
  function : FunctionKey
  /-- What may escape from the body, if there is one. -/
  effect : Option ExceptionSet := none
  /-- Everything that is wrong with it. -/
  diagnostics : List Diagnostic := []

/-- Whether nothing is wrong. -/
def Report.ok (report : Report) : Bool := report.diagnostics.isEmpty

/-- What can be wrong with a definition as a whole. -/
inductive Problem where
  /-- It writes another contract than the one registered. -/
  | mismatch (own registered : Contract)
  /-- Something escapes that the contract does not allow; where it comes from, if it is
  unbounded. -/
  | escape (registered : Contract) (escaping : ExceptionSet) (sites : List Site)

/-- The wording of a problem with the function of the given symbol. -/
def Problem.message (symbol : String) : Problem → String
  | .mismatch own registered => "definition of " ++ symbol ++ " is " ++ own.render
      ++ " but it was declared " ++ registered.render
  | .escape registered escaping _ => "function " ++ symbol ++ " is declared " ++ registered.render
      ++ " but may propagate "
      ++ if escaping.isUniversal then "any exception" else ", ".intercalate escaping.names

/-- The kind under which a problem is reported. -/
def Problem.kind : Problem → Diagnostic.Kind
  | .mismatch _ _ => .declarationDefinitionMismatch
  | .escape _ _ _ => .undeclaredEscape

/-- The exceptions that a problem is about. -/
def Problem.escaping : Problem → Option ExceptionSet
  | .mismatch _ _ => none
  | .escape _ escaping _ => some escaping

/-- The remarks that go with a problem. -/
def Problem.notes : Problem → List String
  | .mismatch _ _ => []
  | .escape _ escaping sites =>
    if escaping.isUniversal then sites.map ("unbounded: " ++ ·.describe) else []

/-- The report of a problem with a definition. -/
def Problem.report (function : Function) (problem : Problem) : Diagnostic := {
  message := problem.message function.key.symbol
  kind := problem.kind
  function := some function.key
  escaping := problem.escaping
  phase := some "verify"
  span := function.span
  notes := problem.notes }

/-- A body that cannot be analysed, as the report of it. -/
structure Malformed where
  /-- What is wrong with it. -/
  diagnostic : Diagnostic

/-- The report of a fault in the body of a function. A body that is too deep is reported where the
function is named. -/
def Malformed.ofFault (function : Function) (span : Span) : Fault → Malformed
  | .tooDeep => ⟨{
      message := "body of " ++ function.key.symbol ++ " nests too deeply to analyse"
      kind := .malformedInput
      function := some function.key
      phase := some "verify"
      span := function.span }⟩
  | fault => ⟨fault.report (some function.key) span⟩

/-- The disagreement between the contract that a definition writes and the one registered. A
specifier that contradicts itself has been reported already and is not compared. -/
def mismatch? (function : Function) (registered : Contract) : Option Problem :=
  if function.specifier.isWritten && !function.specifier.isConflicting
      && decide (function.specifier.meaning.effective ≠ registered.effective) then
    some (.mismatch function.specifier.meaning registered)
  else none

/-- The escape of exceptions that the contract does not allow. -/
def escape? (registered : Contract) (effect : ExceptionSet) (sites : List Site) :
    Option Problem :=
  if effect ⊆ registered.effective then none
  else some (.escape registered (effect \ registered.effective) sites)

/-- Verifies one function against the contracts in `signatures`, looking at its body down to
`depth` levels if that is limited. -/
def verifyFunction (depth : Option Nat) (signatures : Signature.Source) (function : Function) :
    Except Malformed Report :=
  let registered := signatures.lookup function.key
  let disagreement := (mismatch? function registered).toList.map (·.report function)
  match function.body with
  | none => .ok { function := function.key, diagnostics := disagreement }
  | some body =>
    let context : Context := { signatures := signatures, function := some function.key }
    let body := match depth with
      | some levels => body.prune levels
      | none => body
    match infer context body none { diagnostics := disagreement } with
    | (.error (.malformed fault span), _) => .error (.ofFault function span fault)
    | (.error (.rejected diagnostic), _) => .error ⟨diagnostic⟩
    | (.ok effect, trace) => .ok {
        function := function.key
        effect := some effect
        diagnostics := trace.diagnostics
          ++ (escape? registered effect trace.sites).toList.map (·.report function) }

end Throws.Verification
