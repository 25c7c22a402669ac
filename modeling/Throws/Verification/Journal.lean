import Throws.Verification.Program

/-!
# The journal of a verification

What happens in the course of a verification, step by step, up to the first body that cannot be
analysed.
-/

namespace Throws.Verification

open Throws.Body Throws.Signature

/-- A step of a verification. -/
inductive Event where
  /-- There are errors in the declarations, so no body is verified. -/
  | tableRejected (program : String) (errors : Nat)
  /-- The table of the declarations is complete. -/
  | tableBuilt (program : String) (functions : Nat)
  /-- A definition was verified. -/
  | verified (function : FunctionKey) (effect : ExceptionSet) (errors : Nat)
  /-- All definitions of a unit were verified. -/
  | unitVerified (unit : String)

/-- A step in words. -/
def Event.describe : Event → String
  | .tableRejected program errors => "program " ++ program ++ ": " ++ toString errors
      ++ " signature diagnostic(s); skipping body verification"
  | .tableBuilt program functions => "program " ++ program
      ++ ": signature table frozen with " ++ toString functions ++ " function(s)"
  | .verified function effect errors => "verified " ++ function.symbol ++ ": effect "
      ++ effect.render ++ ", " ++ toString errors ++ " diagnostic(s)"
  | .unitVerified unit => "unit " ++ unit ++ " verified"

/-- The step that a report stands for, if there was a body to verify. -/
def Report.event? (report : Report) : Option Event :=
  report.effect.map fun effect => .verified report.function effect report.diagnostics.length

/-- The steps of verifying the definitions of one unit, and then those in `later`. -/
def definitionEvents (options : Options) (signatures : Source) (later : List Event) :
    List Function → List Event
  | [] => later
  | function :: rest =>
    match verifyFunction options.depth signatures function with
    | .error _ => []
    | .ok report => report.event?.toList ++ definitionEvents options signatures later rest

/-- The steps of verifying the definitions of all units. -/
def unitEvents (options : Options) (signatures : Source) : List SourceUnit → List Event
  | [] => []
  | unit :: rest =>
    let later := .unitVerified unit.name :: unitEvents options signatures rest
    definitionEvents options signatures later unit.definitions

/-- The steps of verifying a program. -/
def journal (options : Options) (units : List SourceUnit) : List Event :=
  match buildTable (units.flatMap (·.functions)) with
  | (table, []) =>
    .tableBuilt (programName units) table.size :: unitEvents options table.source units
  | (_, diagnostics) => [.tableRejected (programName units) diagnostics.length]

end Throws.Verification
