import Throws.Resolution.Lowering

/-!
# Resolving programs

Several files make up one program, and every declaration is visible in all of them. First the types
are declared, then the types and clauses of all functions are resolved, and last their bodies.

The errors are reported in the order in which they are found. Where the depth is limited, resolution
ends where it would go too deep: what was found before is reported, and nothing after it.
-/

namespace Throws.Resolution

open Throws.Body Throws.Surface

/-- The units of resolved functions: one for each file, in order of first appearance. -/
def unitsOf (files : List String) (functions : List (String × Function)) :
    List SourceUnit :=
  files.eraseDups.map fun file =>
    { name := file, functions := (functions.filter (·.1 == file)).map (·.2) }

/-- Resolves the files of a program. -/
def lowerProgram (sources : List (String × Program Pos)) : Logged (List SourceUnit) := do
  let functions := sources.flatMap fun (file, program) => program.functions.map (file, ·)
  let types ← Types.ofPrograms sources
  let headers ← .each (fun (file, function) => Header.resolve types file function) functions
  let globals : Globals := { types := types, overloads := overloadsOf headers }
  let lowered ← .each (lowerFunction globals) headers
  return unitsOf (sources.map (·.1)) ((headers.map (·.file)).zip lowered)

/-- The errors to report for a resolution that may go down to the given number of levels. -/
def Logged.reports {α : Type} (depth : Option Nat) (logged : Logged α) : List Diagnostic :=
  let reading := logged.trail.upTo depth
  if reading.isComplete then reading.events else reading.events ++ [Problem.tooDeep.report {}]

end Throws.Resolution
