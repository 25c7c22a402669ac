import Throws.Verification.Definition
import Throws.Verification.Table

/-!
# Verifying units and programs

Verification has two phases. The first builds the table of all declarations; any error in it ends
the verification. The second verifies each definition by itself against the finished table. A body
that cannot be analysed aborts the whole verification.
-/

namespace Throws.Verification

open Throws.Body Throws.Signature

/-- How a verification is carried out. -/
structure Options where
  /-- How many definitions may be verified at the same time; the outcome does not depend on it. -/
  workers : Nat := 1
  /-- There is somebody to do the work. -/
  workers_pos : 0 < workers := by decide
  /-- How deeply bodies are looked into; without a limit, to the end. -/
  depth : Option Nat := none

/-- Options that cannot be met. -/
inductive Options.Error where
  /-- Nobody is left to do the work. -/
  | tooFewWorkers (workers : Int)

/-- The wording of an error in the options. -/
def Options.Error.message : Options.Error → String
  | .tooFewWorkers workers => "workers must be >= 1, got " ++ toString workers

/-- Options with the given number of workers. -/
def Options.ofWorkers (workers : Int) (depth : Option Nat) : Except Options.Error Options :=
  if h : 1 ≤ workers then
    .ok { workers := workers.toNat, workers_pos := by omega, depth := depth }
  else .error (.tooFewWorkers workers)

/-- The outcome of a verification. -/
structure Result where
  /-- What was verified. -/
  name : String
  /-- The table, unless there are errors in it. -/
  signatures : Option Table
  /-- What was found out about each definition. -/
  reports : List Report := []
  /-- The errors in the declarations. -/
  tableDiagnostics : List Diagnostic := []

namespace Result

/-- Every error, those in the declarations first. -/
def diagnostics (result : Result) : List Diagnostic :=
  result.tableDiagnostics ++ result.reports.flatMap (·.diagnostics)

/-- Whether there is no error. -/
def ok (result : Result) : Bool := result.tableDiagnostics.isEmpty && result.reports.all (·.ok)

end Result

/-- Verifies definitions one by one, up to the first that cannot be analysed. -/
def verifyDefinitions (options : Options) (signatures : Source) (definitions : List Function) :
    Except Malformed (List Report) :=
  definitions.mapM (verifyFunction options.depth signatures)

/-- Verifies one unit. The sources in `external` answer for functions that the unit does not
declare itself. -/
def verifyUnit (options : Options) (external : List Source) (unit : SourceUnit) :
    Except Malformed Result :=
  match buildTable unit.functions with
  | (table, []) => do
    let signatures := Source.chain (table.source :: external)
    let reports ← verifyDefinitions options signatures unit.definitions
    return { name := unit.name, signatures := some table, reports := reports }
  | (_, diagnostics) =>
    .ok { name := unit.name, signatures := none, tableDiagnostics := diagnostics }

/-- The name of a program made of the given units. -/
def programName (units : List SourceUnit) : String :=
  let name := ", ".intercalate (units.map (·.name))
  if name.isEmpty then "<program>" else name

/-- Verifies several units as one program, with one table for all of them. -/
def verifyProgram (options : Options) (units : List SourceUnit) : Except Malformed Result :=
  match buildTable (units.flatMap (·.functions)) with
  | (table, []) => do
    let reports ← verifyDefinitions options table.source (units.flatMap (·.definitions))
    return { name := programName units, signatures := some table, reports := reports }
  | (_, diagnostics) =>
    .ok { name := programName units, signatures := none, tableDiagnostics := diagnostics }

end Throws.Verification
