import Throws.Resolution.Program
import Throws.Surface.Read

/-!
# Loading source texts

Loading reads every source text and resolves them all as one program. Texts that cannot be read are
reported, all of them, and then nothing is resolved. A literal without a value is not reported but
ends the loading at once.
-/

namespace Throws.Load

open Throws.Body Throws.Surface Throws.Resolution

/-- The report of a text that is not in the language. -/
def rejection (file : String) (error : SyntaxError) : Diagnostic := {
  message := error.message
  kind := .malformedInput
  phase := some "parser"
  span := { file := some file, line := some error.pos.line, column := some error.pos.column } }

/-- The report of a text that is nested too deeply. -/
def overflow (file : String) : Diagnostic := {
  message := "expression nesting is too deep to parse"
  kind := .malformedInput
  phase := some "parser"
  span := { file := some file } }

/-- Reads one text: its tree, or the report of why there is none. -/
def readSource (depth : Option Nat) (file text : String) :
    Except LiteralFault (Except Diagnostic (Program Pos)) :=
  match read depth text with
  | .ok program => .ok (.ok program)
  | .error (.rejected error) => .ok (.error (rejection file error))
  | .error .tooDeep => .ok (.error (overflow file))
  | .error (.literal fault) => .error fault

/-- The texts of a program that could be read, and the reports of those that could not. -/
structure Sources where
  /-- Files with their trees. -/
  programs : List (String × Program Pos) := []
  /-- Reports in order of the files. -/
  diagnostics : List Diagnostic := []

/-- Reads every text. -/
def readAll (depth : Option Nat) : List (String × String) → Except LiteralFault Sources
  | [] => .ok {}
  | (file, text) :: rest => do
    let first ← readSource depth file text
    let others ← readAll depth rest
    match first with
    | .ok program => return { others with programs := (file, program) :: others.programs }
    | .error diagnostic =>
      return { others with diagnostics := diagnostic :: others.diagnostics }

/-- The outcome of loading: resolved units, or reports of what is wrong. -/
inductive Outcome where
  /-- Everything could be read and resolved. -/
  | loaded (units : List SourceUnit)
  /-- At least one thing is wrong. -/
  | failed (diagnostics : List Diagnostic)

/-- Loads files, given by their names and texts, as one program. -/
def load (depth : Option Nat) (files : List (String × String)) :
    Except LiteralFault Outcome := do
  let sources ← readAll depth files
  if sources.diagnostics.isEmpty then
    let resolved := lowerProgram sources.programs
    let reports := resolved.reports depth
    if reports.isEmpty then return .loaded resolved.value else return .failed reports
  else return .failed sources.diagnostics

end Throws.Load
