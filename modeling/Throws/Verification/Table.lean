import Throws.Body.Node
import Throws.Signature.Table

/-!
# The table of a program

Before any body is looked at, every declaration is recorded. Bodyless declarations come first, then
the definitions of functions that none of them introduced. A definition of a declared function is
only checked for contradicting itself: what it repeats of the contract is compared later, so that a
disagreement between a declaration and its definition is told apart from one between declarations.
-/

namespace Throws.Verification

open Throws.Body Throws.Signature

/-- One step in building a table. -/
inductive Step where
  /-- Record the function. -/
  | record (function : Function)
  /-- Check the specifier of a definition whose function is declared elsewhere. -/
  | check (function : Function)

namespace Step

/-- Carries out one step. -/
def run (table : Table) : Step → Except Diagnostic Table
  | .record function => table.record function.key (.specifier function.specifier) function.span
  | .check function => do
    checkSpecifier function.key function.specifier function.span
    return table

/-- The step for a definition, given the functions that have a bodyless declaration. -/
def ofDefinition (declared : List FunctionKey) (function : Function) : Step :=
  if function.key ∈ declared then .check function else .record function

/-- The steps for building the table of the given functions. -/
def plan (functions : List Function) : List Step :=
  let declarations := functions.filter (!·.isDefinition)
  let definitions := functions.filter (·.isDefinition)
  declarations.map .record ++ definitions.map (ofDefinition (declarations.map (·.key)))

end Step

/-- Carries out the steps and collects the errors of those that fail. -/
def collect : Table → List Step → Table × List Diagnostic
  | table, [] => (table, [])
  | table, step :: rest => match step.run table with
    | .ok next => collect next rest
    | .error diagnostic =>
      let (final, diagnostics) := collect table rest
      (final, diagnostic :: diagnostics)

/-- The table of the given functions, and every error in their declarations. -/
def buildTable (functions : List Function) : Table × List Diagnostic :=
  collect .empty (Step.plan functions)

/-- The table of the given functions, or the first error in their declarations. -/
def buildTableStrictly (functions : List Function) : Except Diagnostic Table :=
  (Step.plan functions).foldlM Step.run .empty

end Throws.Verification
