import Throws.Basic
import Throws.ExceptionSet.Basic
import Throws.Span

/-!
# Diagnostics

A `Diagnostic` is one reported error: its kind, a message, the function it belongs to and where it
was found. The causes themselves are types of the modules that detect them; each of those says how
its causes are worded.
-/

namespace Throws

/-- The kinds of error that are reported. -/
inductive Diagnostic.Kind where
  | conflictingContract
  | noexceptThrowsConflict
  | declarationDefinitionMismatch
  | undeclaredEscape
  | invalidCatchByReference
  | invalidThrowType
  | malformedInput
  | contractNotCovariant
deriving DecidableEq, Inhabited

namespace Diagnostic.Kind

/-- The name of a kind, as reports show it. -/
def name : Kind → String
  | .conflictingContract => "ConflictingContract"
  | .noexceptThrowsConflict => "NoexceptThrowsConflict"
  | .declarationDefinitionMismatch => "DeclarationDefinitionMismatch"
  | .undeclaredEscape => "UndeclaredEscape"
  | .invalidCatchByReference => "InvalidCatchByReference"
  | .invalidThrowType => "InvalidThrowType"
  | .malformedInput => "MalformedInput"
  | .contractNotCovariant => "ContractNotCovariant"

/-- Every kind. -/
def all : List Kind :=
  [.conflictingContract, .noexceptThrowsConflict, .declarationDefinitionMismatch,
    .undeclaredEscape, .invalidCatchByReference, .invalidThrowType, .malformedInput,
    .contractNotCovariant]

/-- The kind with the given name. -/
def ofName? (name : String) : Option Kind := all.find? (·.name == name)

end Diagnostic.Kind

/-- One reported error. -/
structure Diagnostic where
  /-- What is wrong, in words. -/
  message : String
  /-- The kind of error. -/
  kind : Diagnostic.Kind
  /-- The function it belongs to, when that is known. -/
  function : Option FunctionKey := none
  /-- The exceptions that must not escape, when the error is about an escape. -/
  escaping : Option ExceptionSet := none
  /-- The part of the analysis that found it. -/
  phase : Option String := none
  /-- How serious it is. -/
  severity : String := "error"
  /-- Where it was found. -/
  span : Span := {}
  /-- Further remarks, one line each. -/
  notes : List String := []
deriving DecidableEq, Inhabited

/-- The report as text: `file:line:column: error[Kind]: message`, then one indented line for each
note. -/
def Diagnostic.format (diagnostic : Diagnostic) : String :=
  let head := diagnostic.span.format ++ ": " ++ diagnostic.severity ++ "["
    ++ diagnostic.kind.name ++ "]: " ++ diagnostic.message
  "\n".intercalate (head :: diagnostic.notes.map ("  note: " ++ ·))

end Throws
