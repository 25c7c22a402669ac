import Throws.Contract.Specifier
import Throws.Diagnostic
import Throws.Surface.Lexer

/-!
# What can go wrong in resolving a program
-/

namespace Throws.Resolution

/-- An error in the types of a program. -/
inductive Problem where
  /-- A name that is declared as a type twice. -/
  | redefined (name : String)
  /-- A name that is not declared as a type. -/
  | unknown (name : String)
  /-- An alias that stands for itself. -/
  | circular (name : String)
  /-- Qualifiers on an alias of a function type. -/
  | qualifiedFunction (name : String)
  /-- A function type in a `throws` clause. -/
  | thrownFunction (name : String)
  /-- A function type in a `catch`. -/
  | caughtFunction
  /-- A function type with both `noexcept` and `throws`. -/
  | contradiction (specifier : Specifier)
  /-- A program that is nested too deeply. -/
  | tooDeep

namespace Problem

/-- The kind under which a problem is reported. -/
def kind : Problem → Diagnostic.Kind
  | .contradiction _ => .noexceptThrowsConflict
  | _ => .malformedInput

/-- The wording of a problem. -/
def message : Problem → String
  | .redefined name => "type `" ++ name ++ "` is already defined"
  | .unknown name => "unknown type `" ++ name ++ "`"
  | .circular name => "type alias `" ++ name ++ "` refers to itself"
  | .qualifiedFunction name =>
    "qualifiers are not supported on function type alias `" ++ name ++ "`"
  | .thrownFunction name => "function type `" ++ name ++ "` cannot appear in a throws list"
  | .caughtFunction => "cannot catch a function type"
  | .contradiction specifier =>
    "function type specifies both noexcept and throws: `" ++ specifier.render ++ "`"
  | .tooDeep => "expression nesting is too deep to lower"

/-- The report of a problem. -/
def report (problem : Problem) (span : Span) : Diagnostic := {
  message := problem.message
  kind := problem.kind
  phase := some "frontend"
  span := span }

end Problem

/-- The span of a position in a file. -/
def spanAt (file : String) (pos : Surface.Pos) : Span :=
  .ofLocation (some file) (.parts none (some pos.line) (some pos.column))

/-- In a file that has a name, the span of a position is that file with the line and the column. -/
theorem spanAt_eq {file : String} (h : file ≠ "") (pos : Surface.Pos) :
    spanAt file pos = ⟨some file, some pos.line, some pos.column⟩ := by
  simp [spanAt, Span.ofLocation, Span.namedFile, h]

/-- The span of a position that may be missing. -/
def spanAt? (file : String) : Option Surface.Pos → Span
  | some pos => spanAt file pos
  | none => .ofLocation (some file) .unknown

end Throws.Resolution
